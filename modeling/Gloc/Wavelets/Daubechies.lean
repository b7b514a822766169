import Gloc.Wavelets.Coefficients

/-!
# Daubechies wavelets

The branches of `filtcoef` for `haar` and for `db1` to `db15`, in the order of the source.
-/

namespace Gloc.Wavelets

def haar : Branch where
  lp1A := [0.7071, 0.7071]
  hp1A := [-0.7071, 0.7071]
  lp2A := [0.7071, 0.7071]
  hp2A := [0.7071, -0.7071]
  bound := 2
  result := 2

def db2 : Branch where
  lp1A := [-0.12940952255092145, 0.22414386804185735, 0.83651630373746899, 0.48296291314469025]
  hp1A := [-0.48296291314469025, 0.83651630373746899, -0.22414386804185735, -0.12940952255092145]
  lp2A := [0.48296291314469025, 0.83651630373746899, 0.22414386804185735, -0.12940952255092145]
  hp2A := [-0.12940952255092145, -0.22414386804185735, 0.83651630373746899, -0.48296291314469025]
  bound := 4
  result := 4

def db3 : Branch where
  lp1A :=
    [0.035226291882100656, -0.085441273882241486, -0.13501102001039084, 0.45987750211933132,
     0.80689150931333875, 0.33267055295095688]
  hp1A :=
    [-0.33267055295095688, 0.80689150931333875, -0.45987750211933132, -0.13501102001039084,
     0.085441273882241486, 0.035226291882100656]
  lp2A :=
    [0.33267055295095688, 0.80689150931333875, 0.45987750211933132, -0.13501102001039084,
     -0.085441273882241486, 0.035226291882100656]
  hp2A :=
    [0.035226291882100656, 0.085441273882241486, -0.13501102001039084, -0.45987750211933132,
     0.80689150931333875, -0.33267055295095688]
  bound := 6
  result := 6

def db4 : Branch where
  lp1A :=
    [-0.010597401784997278, 0.032883011666982945, 0.030841381835986965, -0.18703481171888114,
     -0.027983769416983849, 0.63088076792959036, 0.71484657055254153, 0.23037781330885523]
  hp1A :=
    [-0.23037781330885523, 0.71484657055254153, -0.63088076792959036, -0.027983769416983849,
     0.18703481171888114, 0.030841381835986965, -0.032883011666982945, -0.010597401784997278]
  lp2A :=
    [0.23037781330885523, 0.71484657055254153, 0.63088076792959036, -0.027983769416983849,
     -0.18703481171888114, 0.030841381835986965, 0.032883011666982945, -0.010597401784997278]
  hp2A :=
    [-0.010597401784997278, -0.032883011666982945, 0.030841381835986965, 0.18703481171888114,
     -0.027983769416983849, -0.63088076792959036, 0.71484657055254153, -0.23037781330885523]
  bound := 8
  result := 8

def db5 : Branch where
  lp1A :=
    [0.0033357252850015492, -0.012580751999015526, -0.0062414902130117052, 0.077571493840065148,
     -0.03224486958502952, -0.24229488706619015, 0.13842814590110342, 0.72430852843857441,
     0.60382926979747287, 0.16010239797412501]
  hp1A :=
    [-0.16010239797412501, 0.60382926979747287, -0.72430852843857441, 0.13842814590110342,
     0.24229488706619015, -0.03224486958502952, -0.077571493840065148, -0.0062414902130117052,
     0.012580751999015526, 0.0033357252850015492]
  lp2A :=
    [0.16010239797412501, 0.60382926979747287, 0.72430852843857441, 0.13842814590110342,
     -0.24229488706619015, -0.03224486958502952, 0.077571493840065148, -0.0062414902130117052,
     -0.012580751999015526, 0.0033357252850015492]
  hp2A :=
    [0.0033357252850015492, 0.012580751999015526, -0.0062414902130117052, -0.077571493840065148,
     -0.03224486958502952, 0.24229488706619015, 0.13842814590110342, -0.72430852843857441,
     0.60382926979747287, -0.16010239797412501]
  bound := 10
  result := 10

def db6 : Branch where
  lp1A :=
    [-0.0010773010849955799, 0.0047772575110106514, 0.0005538422009938016, -0.031582039318031156,
     0.027522865530016288, 0.097501605587079362, -0.12976686756709563, -0.22626469396516913,
     0.3152503517092432, 0.75113390802157753, 0.49462389039838539, 0.11154074335008017]
  hp1A :=
    [-0.11154074335008017, 0.49462389039838539, -0.75113390802157753, 0.3152503517092432,
     0.22626469396516913, -0.12976686756709563, -0.097501605587079362, 0.027522865530016288,
     0.031582039318031156, 0.0005538422009938016, -0.0047772575110106514, -0.0010773010849955799]
  lp2A :=
    [0.11154074335008017, 0.49462389039838539, 0.75113390802157753, 0.3152503517092432,
     -0.22626469396516913, -0.12976686756709563, 0.097501605587079362, 0.027522865530016288,
     -0.031582039318031156, 0.0005538422009938016, 0.0047772575110106514, -0.0010773010849955799]
  hp2A :=
    [-0.0010773010849955799, -0.0047772575110106514, 0.0005538422009938016, 0.031582039318031156,
     0.027522865530016288, -0.097501605587079362, -0.12976686756709563, 0.22626469396516913,
     0.3152503517092432, -0.75113390802157753, 0.49462389039838539, -0.11154074335008017]
  bound := 12
  result := 12

def db7 : Branch where
  lp1A :=
    [0.00035371380000103988, -0.0018016407039998328, 0.00042957797300470274, 0.012550998556013784,
     -0.01657454163101562, -0.038029936935034633, 0.080612609151065898, 0.071309219267050042,
     -0.22403618499416572, -0.14390600392910627, 0.4697822874053586, 0.72913209084655506,
     0.39653931948230575, 0.077852054085062364]
  hp1A :=
    [-0.077852054085062364, 0.39653931948230575, -0.72913209084655506, 0.4697822874053586,
     0.14390600392910627, -0.22403618499416572, -0.071309219267050042, 0.080612609151065898,
     0.038029936935034633, -0.01657454163101562, -0.012550998556013784, 0.0004295779730047027,
     0.0018016407039998328, 0.00035371380000103988]
  lp2A :=
    [0.077852054085062364, 0.39653931948230575, 0.72913209084655506, 0.4697822874053586,
     -0.14390600392910627, -0.22403618499416572, 0.071309219267050042, 0.080612609151065898,
     -0.038029936935034633, -0.01657454163101562, 0.012550998556013784, 0.00042957797300470274,
     -0.0018016407039998328, 0.00035371380000103988]
  hp2A :=
    [0.00035371380000103988, 0.0018016407039998328, 0.00042957797300470274, -0.01255099855601378,
     -0.01657454163101562, 0.038029936935034633, 0.080612609151065898, -0.071309219267050042,
     -0.22403618499416572, 0.14390600392910627, 0.4697822874053586, -0.72913209084655506,
     0.39653931948230575, -0.077852054085062364]
  bound := 14
  result := 14

def db8 : Branch where
  lp1A :=
    [-0.00011747678400228192, 0.00067544940599855677, -0.00039174037299597711,
     -0.0048703529930106603, 0.0087460940470156547, 0.013981027917015516, -0.044088253931064719,
     -0.017369301002022108, 0.12874742662018601, 0.00047248457399797254, -0.28401554296242809,
     -0.015829105256023893, 0.58535468365486909, 0.67563073629801285, 0.31287159091446592,
     0.054415842243081609]
  hp1A :=
    [-0.054415842243081609, 0.31287159091446592, -0.67563073629801285, 0.58535468365486909,
     0.015829105256023893, -0.28401554296242809, -0.00047248457399797254, 0.12874742662018601,
     0.017369301002022108, -0.044088253931064719, -0.013981027917015516, 0.0087460940470156547,
     0.0048703529930106603, -0.00039174037299597711, -0.00067544940599855677,
     -0.00011747678400228192]
  lp2A :=
    [0.054415842243081609, 0.31287159091446592, 0.67563073629801285, 0.58535468365486909,
     -0.015829105256023893, -0.28401554296242809, 0.00047248457399797254, 0.12874742662018601,
     -0.017369301002022108, -0.044088253931064719, 0.013981027917015516, 0.0087460940470156547,
     -0.0048703529930106603, -0.00039174037299597711, 0.00067544940599855677,
     -0.00011747678400228192]
  hp2A :=
    [-0.00011747678400228192, -0.00067544940599855677, -0.00039174037299597711,
     0.0048703529930106603, 0.0087460940470156547, -0.013981027917015516, -0.044088253931064719,
     0.017369301002022108, 0.12874742662018601, -0.00047248457399797254, -0.28401554296242809,
     0.015829105256023893, 0.58535468365486909, -0.67563073629801285, 0.31287159091446592,
     -0.054415842243081609]
  bound := 16
  result := 16

def db9 : Branch where
  lp1A :=
    [3.9347319995026124e-05, -0.00025196318899817888, 0.00023038576399541288,
     0.0018476468829611268, -0.0042815036819047227, -0.004723204757894831, 0.022361662123515244,
     0.00025094711499193845, -0.067632829059523988, 0.030725681478322865, 0.14854074933476008,
     -0.096840783220879037, -0.29327378327258685, 0.13319738582208895, 0.65728807803663891,
     0.6048231236767786, 0.24383467463766728, 0.038077947363167282]
  hp1A :=
    [-0.038077947363167282, 0.24383467463766728, -0.6048231236767786, 0.65728807803663891,
     -0.13319738582208895, -0.29327378327258685, 0.096840783220879037, 0.14854074933476008,
     -0.030725681478322865, -0.067632829059523988, -0.00025094711499193845, 0.022361662123515244,
     0.004723204757894831, -0.0042815036819047227, -0.0018476468829611268, 0.00023038576399541288,
     0.00025196318899817888, 3.9347319995026124e-05]
  lp2A :=
    [0.038077947363167282, 0.24383467463766728, 0.6048231236767786, 0.65728807803663891,
     0.13319738582208895, -0.29327378327258685, -0.096840783220879037, 0.14854074933476008,
     0.030725681478322865, -0.067632829059523988, 0.00025094711499193845, 0.022361662123515244,
     -0.004723204757894831, -0.0042815036819047227, 0.0018476468829611268, 0.00023038576399541288,
     -0.00025196318899817888, 3.9347319995026124e-05]
  hp2A :=
    [3.9347319995026124e-05, 0.00025196318899817888, 0.00023038576399541288,
     -0.0018476468829611268, -0.0042815036819047227, 0.004723204757894831, 0.022361662123515244,
     -0.00025094711499193845, -0.067632829059523988, -0.030725681478322865, 0.14854074933476008,
     0.096840783220879037, -0.29327378327258685, -0.13319738582208895, 0.65728807803663891,
     -0.6048231236767786, 0.24383467463766728, -0.038077947363167282]
  bound := 18
  result := 18

def db10 : Branch where
  lp1A :=
    [-1.3264203002354869e-05, 9.3588670001089845e-05, -0.0001164668549943862,
     -0.00068585669500468248, 0.0019924052949908499, 0.0013953517469940798, -0.010733175482979604,
     0.0036065535669883944, 0.033212674058933238, -0.029457536821945671, -0.071394147165860775,
     0.093057364603806592, 0.12736934033574265, -0.19594627437659665, -0.24984642432648865,
     0.28117234366042648, 0.68845903945259213, 0.52720118893091983, 0.18817680007762133,
     0.026670057900950818]
  hp1A :=
    [-0.026670057900950818, 0.18817680007762133, -0.52720118893091983, 0.68845903945259213,
     -0.28117234366042648, -0.24984642432648865, 0.19594627437659665, 0.12736934033574265,
     -0.093057364603806592, -0.071394147165860775, 0.029457536821945671, 0.033212674058933238,
     -0.0036065535669883944, -0.010733175482979604, -0.0013953517469940798, 0.0019924052949908499,
     0.00068585669500468248, -0.0001164668549943862, -9.3588670001089845e-05,
     -1.3264203002354869e-05]
  lp2A :=
    [0.026670057900950818, 0.18817680007762133, 0.52720118893091983, 0.68845903945259213,
     0.28117234366042648, -0.24984642432648865, -0.19594627437659665, 0.12736934033574265,
     0.093057364603806592, -0.071394147165860775, -0.029457536821945671, 0.033212674058933238,
     0.0036065535669883944, -0.010733175482979604, 0.0013953517469940798, 0.0019924052949908499,
     -0.00068585669500468248, -0.0001164668549943862, 9.3588670001089845e-05,
     -1.3264203002354869e-05]
  hp2A :=
    [-1.3264203002354869e-05, -9.3588670001089845e-05, -0.0001164668549943862,
     0.00068585669500468248, 0.0019924052949908499, -0.0013953517469940798, -0.010733175482979604,
     -0.0036065535669883944, 0.033212674058933238, 0.029457536821945671, -0.071394147165860775,
     -0.093057364603806592, 0.12736934033574265, 0.19594627437659665, -0.24984642432648865,
     -0.28117234366042648, 0.68845903945259213, -0.52720118893091983, 0.18817680007762133,
     -0.026670057900950818]
  bound := 20
  result := 20

def db12 : Branch where
  lp1A :=
    [-1.5290717580684923e-06, 1.2776952219379579e-05, -2.4241545757030318e-05,
     -8.8504109208203182e-05, 0.00038865306282092672, 6.5451282125215034e-06,
     -0.0021795036186277044, 0.0022486072409952287, 0.0067114990087955486, -0.012840825198299882,
     -0.01221864906974642, 0.041546277495087637, 0.010849130255828966, -0.09643212009649671,
     0.0053595696743599965, 0.18247860592758275, -0.023779257256064865, -0.31617845375277914,
     -0.044763885653777619, 0.51588647842780067, 0.65719872257929113, 0.37735513521420411,
     0.10956627282118277, 0.013112257957229239]
  hp1A :=
    [-0.013112257957229239, 0.10956627282118277, -0.37735513521420411, 0.65719872257929113,
     -0.51588647842780067, -0.044763885653777619, 0.31617845375277914, -0.023779257256064865,
     -0.18247860592758275, 0.0053595696743599965, 0.09643212009649671, 0.010849130255828966,
     -0.041546277495087637, -0.01221864906974642, 0.012840825198299882, 0.0067114990087955486,
     -0.0022486072409952287, -0.0021795036186277044, -6.5451282125215034e-06,
     0.00038865306282092672, 8.8504109208203182e-05, -2.4241545757030318e-05,
     -1.2776952219379579e-05, -1.5290717580684923e-06]
  lp2A :=
    [0.013112257957229239, 0.10956627282118277, 0.37735513521420411, 0.65719872257929113,
     0.51588647842780067, -0.044763885653777619, -0.31617845375277914, -0.023779257256064865,
     0.18247860592758275, 0.0053595696743599965, -0.09643212009649671, 0.010849130255828966,
     0.041546277495087637, -0.01221864906974642, -0.012840825198299882, 0.0067114990087955486,
     0.0022486072409952287, -0.0021795036186277044, 6.5451282125215034e-06, 0.00038865306282092672,
     -8.8504109208203182e-05, -2.4241545757030318e-05, 1.2776952219379579e-05,
     -1.5290717580684923e-06]
  hp2A :=
    [-1.5290717580684923e-06, -1.2776952219379579e-05, -2.4241545757030318e-05,
     8.8504109208203182e-05, 0.00038865306282092672, -6.5451282125215034e-06,
     -0.0021795036186277044, -0.0022486072409952287, 0.0067114990087955486, 0.012840825198299882,
     -0.01221864906974642, -0.041546277495087637, 0.010849130255828966, 0.09643212009649671,
     0.0053595696743599965, -0.18247860592758275, -0.023779257256064865, 0.31617845375277914,
     -0.044763885653777619, -0.51588647842780067, 0.65719872257929113, -0.37735513521420411,
     0.10956627282118277, -0.013112257957229239]
  bound := 24
  result := 24

def db13 : Branch where
  lp1A :=
    [5.2200350984547998e-07, -4.7004164793608082e-06, 1.0441930571407941e-05,
     3.0678537579324358e-05, -0.00016512898855650571, 4.9251525126285676e-05,
     0.00093232613086724904, -0.0013156739118922766, -0.002761911234656831, 0.0072555894016171187,
     0.0039239414487955773, -0.023831420710327809, 0.0023799722540522269, 0.056139477100276156,
     -0.026488406475345658, -0.10580761818792761, 0.072948933656788742, 0.17947607942935084,
     -0.12457673075080665, -0.31497290771138414, 0.086985726179645007, 0.58888957043121193,
     0.61105585115878114, 0.31199632216043488, 0.082861243872901946, 0.0092021335389622788]
  hp1A :=
    [-0.0092021335389622788, 0.082861243872901946, -0.31199632216043488, 0.61105585115878114,
     -0.58888957043121193, 0.086985726179645007, 0.31497290771138414, -0.12457673075080665,
     -0.17947607942935084, 0.072948933656788742, 0.10580761818792761, -0.026488406475345658,
     -0.056139477100276156, 0.0023799722540522269, 0.023831420710327809, 0.0039239414487955773,
     -0.0072555894016171187, -0.002761911234656831, 0.0013156739118922766, 0.00093232613086724904,
     -4.9251525126285676e-05, -0.00016512898855650571, -3.0678537579324358e-05,
     1.0441930571407941e-05, 4.7004164793608082e-06, 5.2200350984547998e-07]
  lp2A :=
    [0.0092021335389622788, 0.082861243872901946, 0.31199632216043488, 0.61105585115878114,
     0.58888957043121193, 0.086985726179645007, -0.31497290771138414, -0.12457673075080665,
     0.17947607942935084, 0.072948933656788742, -0.10580761818792761, -0.026488406475345658,
     0.056139477100276156, 0.0023799722540522269, -0.023831420710327809, 0.0039239414487955773,
     0.0072555894016171187, -0.002761911234656831, -0.0013156739118922766, 0.00093232613086724904,
     4.9251525126285676e-05, -0.00016512898855650571, 3.0678537579324358e-05,
     1.0441930571407941e-05, -4.7004164793608082e-06, 5.2200350984547998e-07]
  hp2A :=
    [5.2200350984547998e-07, 4.7004164793608082e-06, 1.0441930571407941e-05,
     -3.0678537579324358e-05, -0.00016512898855650571, -4.9251525126285676e-05,
     0.00093232613086724904, 0.0013156739118922766, -0.002761911234656831, -0.0072555894016171187,
     0.0039239414487955773, 0.023831420710327809, 0.0023799722540522269, -0.056139477100276156,
     -0.026488406475345658, 0.10580761818792761, 0.072948933656788742, -0.17947607942935084,
     -0.12457673075080665, 0.31497290771138414, 0.086985726179645007, -0.58888957043121193,
     0.61105585115878114, -0.31199632216043488, 0.082861243872901946, -0.0092021335389622788]
  bound := 26
  result := 26

def db11 : Branch where
  lp1A :=
    [4.4942742772363519e-06, -3.4634984186983789e-05, 5.4439074699366381e-05,
     0.00024915252355281426, -0.00089302325066623663, -0.00030859285881515924,
     0.0049284176560587777, -0.0033408588730145018, -0.015364820906201324, 0.020840904360180039,
     0.031335090219045313, -0.066438785695020222, -0.04647995511667613, 0.14981201246638268,
     0.066043588196690886, -0.27423084681792875, -0.16227524502747828, 0.41196436894789695,
     0.68568677491617847, 0.44989976435603013, 0.14406702115061959, 0.018694297761470441]
  hp1A :=
    [-0.018694297761470441, 0.14406702115061959, -0.44989976435603013, 0.68568677491617847,
     -0.41196436894789695, -0.16227524502747828, 0.27423084681792875, 0.066043588196690886,
     -0.14981201246638268, -0.04647995511667613, 0.066438785695020222, 0.031335090219045313,
     -0.020840904360180039, -0.015364820906201324, 0.0033408588730145018, 0.0049284176560587777,
     0.00030859285881515924, -0.00089302325066623663, -0.00024915252355281426,
     5.4439074699366381e-05, 3.4634984186983789e-05, 4.4942742772363519e-06]
  lp2A :=
    [0.018694297761470441, 0.14406702115061959, 0.44989976435603013, 0.68568677491617847,
     0.41196436894789695, -0.16227524502747828, -0.27423084681792875, 0.066043588196690886,
     0.14981201246638268, -0.04647995511667613, -0.066438785695020222, 0.031335090219045313,
     0.020840904360180039, -0.015364820906201324, -0.0033408588730145018, 0.0049284176560587777,
     -0.00030859285881515924, -0.00089302325066623663, 0.00024915252355281426,
     5.4439074699366381e-05, -3.4634984186983789e-05, 4.4942742772363519e-06]
  hp2A :=
    [4.4942742772363519e-06, 3.4634984186983789e-05, 5.4439074699366381e-05,
     -0.00024915252355281426, -0.00089302325066623663, 0.00030859285881515924,
     0.0049284176560587777, 0.0033408588730145018, -0.015364820906201324, -0.020840904360180039,
     0.031335090219045313, 0.066438785695020222, -0.04647995511667613, -0.14981201246638268,
     0.066043588196690886, 0.27423084681792875, -0.16227524502747828, -0.41196436894789695,
     0.68568677491617847, -0.44989976435603013, 0.14406702115061959, -0.018694297761470441]
  bound := 22
  result := 22

def db14 : Branch where
  lp1A :=
    [-1.7871399683109222e-07, 1.7249946753674012e-06, -4.3897049017804176e-06,
     -1.0337209184568496e-05, 6.875504252695734e-05, -4.1777245770370672e-05,
     -0.00038683194731287514, 0.00070802115423540481, 0.001061691085606874, -0.003849638868019787,
     -0.00074621898926387534, 0.012789493266340071, -0.0056150495303375755, -0.030185351540353976,
     0.026981408307947971, 0.05523712625925082, -0.071548955503983505, -0.086748411568110598,
     0.13998901658445695, 0.13839521386479153, -0.21803352999321651, -0.27168855227867705,
     0.21867068775886594, 0.63118784910471981, 0.55430561794077093, 0.25485026779256437,
     0.062364758849384874, 0.0064611534600864905]
  hp1A :=
    [-0.0064611534600864905, 0.062364758849384874, -0.25485026779256437, 0.55430561794077093,
     -0.63118784910471981, 0.21867068775886594, 0.27168855227867705, -0.21803352999321651,
     -0.13839521386479153, 0.13998901658445695, 0.086748411568110598, -0.071548955503983505,
     -0.05523712625925082, 0.026981408307947971, 0.030185351540353976, -0.0056150495303375755,
     -0.012789493266340071, -0.00074621898926387534, 0.003849638868019787, 0.001061691085606874,
     -0.00070802115423540481, -0.00038683194731287514, 4.1777245770370672e-05,
     6.875504252695734e-05, 1.0337209184568496e-05, -4.3897049017804176e-06,
     -1.7249946753674012e-06, -1.7871399683109222e-07]
  lp2A :=
    [0.0064611534600864905, 0.062364758849384874, 0.25485026779256437, 0.55430561794077093,
     0.63118784910471981, 0.21867068775886594, -0.27168855227867705, -0.21803352999321651,
     0.13839521386479153, 0.13998901658445695, -0.086748411568110598, -0.071548955503983505,
     0.05523712625925082, 0.026981408307947971, -0.030185351540353976, -0.0056150495303375755,
     0.012789493266340071, -0.00074621898926387534, -0.003849638868019787, 0.001061691085606874,
     0.00070802115423540481, -0.00038683194731287514, -4.1777245770370672e-05,
     6.875504252695734e-05, -1.0337209184568496e-05, -4.3897049017804176e-06,
     1.7249946753674012e-06, -1.7871399683109222e-07]
  hp2A :=
    [-1.7871399683109222e-07, -1.7249946753674012e-06, -4.3897049017804176e-06,
     1.0337209184568496e-05, 6.875504252695734e-05, 4.1777245770370672e-05,
     -0.00038683194731287514, -0.00070802115423540481, 0.001061691085606874, 0.003849638868019787,
     -0.00074621898926387534, -0.012789493266340071, -0.0056150495303375755, 0.030185351540353976,
     0.026981408307947971, -0.05523712625925082, -0.071548955503983505, 0.086748411568110598,
     0.13998901658445695, -0.13839521386479153, -0.21803352999321651, 0.27168855227867705,
     0.21867068775886594, -0.63118784910471981, 0.55430561794077093, -0.25485026779256437,
     0.062364758849384874, -0.0064611534600864905]
  bound := 28
  result := 28

def db15 : Branch where
  lp1A :=
    [6.1333599133037138e-08, -6.3168823258794506e-07, 1.8112704079399406e-06,
     3.3629871817363823e-06, -2.8133296266037558e-05, 2.579269915531323e-05,
     0.00015589648992055726, -0.00035956524436229364, -0.00037348235413726472,
     0.0019433239803823459, -0.00024175649075894543, -0.0064877345603061454, 0.0051010003604228726,
     0.015083918027862582, -0.020810050169636805, -0.025767007328366939, 0.054780550584559995,
     0.033877143923563204, -0.11112093603713753, -0.039666176555733602, 0.19014671400708816,
     0.065282952848765688, -0.28888259656686216, -0.19320413960907623, 0.33900253545462167,
     0.64581314035721027, 0.49263177170797529, 0.20602386398692688, 0.046743394892750617,
     0.0045385373615773762]
  hp1A :=
    [-0.0045385373615773762, 0.046743394892750617, -0.20602386398692688, 0.49263177170797529,
     -0.64581314035721027, 0.33900253545462167, 0.19320413960907623, -0.28888259656686216,
     -0.065282952848765688, 0.19014671400708816, 0.039666176555733602, -0.11112093603713753,
     -0.033877143923563204, 0.054780550584559995, 0.025767007328366939, -0.020810050169636805,
     -0.015083918027862582, 0.0051010003604228726, 0.0064877345603061454, -0.00024175649075894543,
     -0.0019433239803823459, -0.00037348235413726472, 0.00035956524436229364,
     0.00015589648992055726, -2.579269915531323e-05, -2.8133296266037558e-05,
     -3.3629871817363823e-06, 1.8112704079399406e-06, 6.3168823258794506e-07,
     6.1333599133037138e-08]
  lp2A :=
    [0.0045385373615773762, 0.046743394892750617, 0.20602386398692688, 0.49263177170797529,
     0.64581314035721027, 0.33900253545462167, -0.19320413960907623, -0.28888259656686216,
     0.065282952848765688, 0.19014671400708816, -0.039666176555733602, -0.11112093603713753,
     0.033877143923563204, 0.054780550584559995, -0.025767007328366939, -0.020810050169636805,
     0.015083918027862582, 0.0051010003604228726, -0.0064877345603061454, -0.00024175649075894543,
     0.0019433239803823459, -0.00037348235413726472, -0.00035956524436229364,
     0.00015589648992055726, 2.579269915531323e-05, -2.8133296266037558e-05,
     3.3629871817363823e-06, 1.8112704079399406e-06, -6.3168823258794506e-07,
     6.1333599133037138e-08]
  hp2A :=
    [6.1333599133037138e-08, 6.3168823258794506e-07, 1.8112704079399406e-06,
     -3.3629871817363823e-06, -2.8133296266037558e-05, -2.579269915531323e-05,
     0.00015589648992055726, 0.00035956524436229364, -0.00037348235413726472,
     -0.0019433239803823459, -0.00024175649075894543, 0.0064877345603061454, 0.0051010003604228726,
     -0.015083918027862582, -0.020810050169636805, 0.025767007328366939, 0.054780550584559995,
     -0.033877143923563204, -0.11112093603713753, 0.039666176555733602, 0.19014671400708816,
     -0.065282952848765688, -0.28888259656686216, 0.19320413960907623, 0.33900253545462167,
     -0.64581314035721027, 0.49263177170797529, -0.20602386398692688, 0.046743394892750617,
     -0.0045385373615773762]
  bound := 30
  result := 30

def daubechies : List (List String × Branch) :=
  [(["haar", "db1"], haar), (["db2"], db2), (["db3"], db3), (["db4"], db4), (["db5"], db5),
    (["db6"], db6), (["db7"], db7), (["db8"], db8), (["db9"], db9), (["db10"], db10),
    (["db12"], db12), (["db13"], db13), (["db11"], db11), (["db14"], db14), (["db15"], db15)]

theorem daubechies_complete : ∀ branch ∈ daubechies, branch.2.Complete := by decide

theorem daubechies_opposed : ∀ branch ∈ daubechies, branch.2.Opposed := by decide

end Gloc.Wavelets
