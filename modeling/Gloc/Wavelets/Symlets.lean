import Gloc.Wavelets.Coefficients

/-!
# Symlets

The branches of `filtcoef` for `sym2` to `sym10`.
-/

namespace Gloc.Wavelets

def sym2 : Branch where
  lp1A := [-0.12940952255092145, 0.22414386804185735, 0.83651630373746899, 0.48296291314469025]
  hp1A := [-0.48296291314469025, 0.83651630373746899, -0.22414386804185735, -0.12940952255092145]
  lp2A := [0.48296291314469025, 0.83651630373746899, 0.22414386804185735, -0.12940952255092145]
  hp2A := [-0.12940952255092145, -0.22414386804185735, 0.83651630373746899, -0.48296291314469025]
  bound := 4
  result := 4

def sym3 : Branch where
  lp1A :=
    [0.035226291882100656, -0.085441273882241486, -0.13501102001039084, 0.45987750211933132,
     0.80689150931333875, 0.33267055295095688]
  hp1A :=
    [-0.33267055295095688, 0.80689150931333875, -0.45987750211933132, -0.13501102001039084,
     0.085441273882241486, 0.035226291882100656]
  lp2A :=
    [0.33267055295095688, 0.80689150931333875, 0.45987750211933132, -0.13501102001039084,
     -0.085441273882241486, 0.035226291882100656]
  hp2A :=
    [0.035226291882100656, 0.085441273882241486, -0.13501102001039084, -0.45987750211933132,
     0.80689150931333875, -0.33267055295095688]
  bound := 6
  result := 6

def sym4 : Branch where
  lp1A :=
    [-0.075765714789273325, -0.02963552764599851, 0.49761866763201545, 0.80373875180591614,
     0.29785779560527736, -0.099219543576847216, -0.012603967262037833, 0.032223100604042702]
  hp1A :=
    [-0.032223100604042702, -0.012603967262037833, 0.099219543576847216, 0.29785779560527736,
     -0.80373875180591614, 0.49761866763201545, 0.02963552764599851, -0.075765714789273325]
  lp2A :=
    [0.032223100604042702, -0.012603967262037833, -0.099219543576847216, 0.29785779560527736,
     0.80373875180591614, 0.49761866763201545, -0.02963552764599851, -0.075765714789273325]
  hp2A :=
    [-0.075765714789273325, 0.02963552764599851, 0.49761866763201545, -0.80373875180591614,
     0.29785779560527736, 0.099219543576847216, -0.012603967262037833, -0.032223100604042702]
  bound := 8
  result := 8

def sym5 : Branch where
  lp1A :=
    [0.027333068345077982, 0.029519490925774643, -0.039134249302383094, 0.1993975339773936,
     0.72340769040242059, 0.63397896345821192, 0.016602105764522319, -0.17532808990845047,
     -0.021101834024758855, 0.019538882735286728]
  hp1A :=
    [-0.019538882735286728, -0.021101834024758855, 0.17532808990845047, 0.016602105764522319,
     -0.63397896345821192, 0.72340769040242059, -0.1993975339773936, -0.039134249302383094,
     -0.029519490925774643, 0.027333068345077982]
  lp2A :=
    [0.019538882735286728, -0.021101834024758855, -0.17532808990845047, 0.016602105764522319,
     0.63397896345821192, 0.72340769040242059, 0.1993975339773936, -0.039134249302383094,
     0.029519490925774643, 0.027333068345077982]
  hp2A :=
    [0.027333068345077982, -0.029519490925774643, -0.039134249302383094, -0.1993975339773936,
     0.72340769040242059, -0.63397896345821192, 0.016602105764522319, 0.17532808990845047,
     -0.021101834024758855, -0.019538882735286728]
  bound := 10
  result := 10

def sym6 : Branch where
  lp1A :=
    [0.015404109327027373, 0.0034907120842174702, -0.11799011114819057, -0.048311742585632998,
     0.49105594192674662, 0.787641141030194, 0.3379294217276218, -0.072637522786462516,
     -0.021060292512300564, 0.044724901770665779, 0.0017677118642428036, -0.007800708325034148]
  hp1A :=
    [0.007800708325034148, 0.0017677118642428036, -0.044724901770665779, -0.021060292512300564,
     0.072637522786462516, 0.3379294217276218, -0.787641141030194, 0.49105594192674662,
     0.048311742585632998, -0.11799011114819057, -0.0034907120842174702, 0.015404109327027373]
  lp2A :=
    [-0.007800708325034148, 0.0017677118642428036, 0.044724901770665779, -0.021060292512300564,
     -0.072637522786462516, 0.3379294217276218, 0.787641141030194, 0.49105594192674662,
     -0.048311742585632998, -0.11799011114819057, 0.0034907120842174702, 0.015404109327027373]
  hp2A :=
    [0.015404109327027373, -0.0034907120842174702, -0.11799011114819057, 0.048311742585632998,
     0.49105594192674662, -0.787641141030194, 0.3379294217276218, 0.072637522786462516,
     -0.021060292512300564, -0.044724901770665779, 0.0017677118642428036, 0.007800708325034148]
  bound := 12
  result := 12

def sym7 : Branch where
  lp1A :=
    [0.0026818145682578781, -0.0010473848886829163, -0.01263630340325193, 0.03051551316596357,
     0.067892693501372697, -0.049552834937127255, 0.017441255086855827, 0.5361019170917628,
     0.76776431700316405, 0.28862963175151463, -0.14004724044296152, -0.10780823770381774,
     0.0040102448715336634, 0.010268176708511255]
  hp1A :=
    [-0.010268176708511255, 0.0040102448715336634, 0.10780823770381774, -0.14004724044296152,
     -0.28862963175151463, 0.76776431700316405, -0.5361019170917628, 0.017441255086855827,
     0.049552834937127255, 0.067892693501372697, -0.03051551316596357, -0.01263630340325193,
     0.0010473848886829163, 0.0026818145682578781]
  lp2A :=
    [0.010268176708511255, 0.0040102448715336634, -0.10780823770381774, -0.14004724044296152,
     0.28862963175151463, 0.76776431700316405, 0.5361019170917628, 0.017441255086855827,
     -0.049552834937127255, 0.067892693501372697, 0.03051551316596357, -0.01263630340325193,
     -0.0010473848886829163, 0.0026818145682578781]
  hp2A :=
    [0.0026818145682578781, 0.0010473848886829163, -0.01263630340325193, -0.03051551316596357,
     0.067892693501372697, 0.049552834937127255, 0.017441255086855827, -0.5361019170917628,
     0.76776431700316405, -0.28862963175151463, -0.14004724044296152, 0.10780823770381774,
     0.0040102448715336634, -0.010268176708511255]
  bound := 14
  result := 14

def sym8 : Branch where
  lp1A :=
    [-0.0033824159510061256, -0.00054213233179114812, 0.031695087811492981, 0.0076074873249176054,
     -0.14329423835080971, -0.061273359067658524, 0.48135965125837221, 0.77718575170052351,
     0.3644418948353314, -0.051945838107709037, -0.027219029917056003, 0.049137179673607506,
     0.0038087520138906151, -0.014952258337048231, -0.0003029205147213668, 0.0018899503327594609]
  hp1A :=
    [-0.0018899503327594609, -0.0003029205147213668, 0.014952258337048231, 0.0038087520138906151,
     -0.049137179673607506, -0.027219029917056003, 0.051945838107709037, 0.3644418948353314,
     -0.77718575170052351, 0.48135965125837221, 0.061273359067658524, -0.14329423835080971,
     -0.0076074873249176054, 0.031695087811492981, 0.00054213233179114812, -0.0033824159510061256]
  lp2A :=
    [0.0018899503327594609, -0.0003029205147213668, -0.014952258337048231, 0.0038087520138906151,
     0.049137179673607506, -0.027219029917056003, -0.051945838107709037, 0.3644418948353314,
     0.77718575170052351, 0.48135965125837221, -0.061273359067658524, -0.14329423835080971,
     0.0076074873249176054, 0.031695087811492981, -0.00054213233179114812, -0.0033824159510061256]
  hp2A :=
    [-0.0033824159510061256, 0.00054213233179114812, 0.031695087811492981, -0.0076074873249176054,
     -0.14329423835080971, 0.061273359067658524, 0.48135965125837221, -0.77718575170052351,
     0.3644418948353314, 0.051945838107709037, -0.027219029917056003, -0.049137179673607506,
     0.0038087520138906151, 0.014952258337048231, -0.0003029205147213668, -0.0018899503327594609]
  bound := 16
  result := 16

def sym9 : Branch where
  lp1A :=
    [0.0014009155259146807, 0.00061978088898558676, -0.013271967781817119, -0.01152821020767923,
     0.03022487885827568, 0.00058346274612580684, -0.054568958430834071, 0.238760914607303,
     0.717897082764412, 0.61733844914093583, 0.035272488035271894, -0.19155083129728512,
     -0.018233770779395985, 0.06207778930288603, 0.0088592674934004842, -0.010264064027633142,
     -0.00047315449868008311, 0.0010694900329086053]
  hp1A :=
    [-0.0010694900329086053, -0.00047315449868008311, 0.010264064027633142, 0.0088592674934004842,
     -0.06207778930288603, -0.018233770779395985, 0.19155083129728512, 0.035272488035271894,
     -0.61733844914093583, 0.717897082764412, -0.238760914607303, -0.054568958430834071,
     -0.00058346274612580684, 0.03022487885827568, 0.01152821020767923, -0.013271967781817119,
     -0.00061978088898558676, 0.0014009155259146807]
  lp2A :=
    [0.0010694900329086053, -0.00047315449868008311, -0.010264064027633142, 0.0088592674934004842,
     0.06207778930288603, -0.018233770779395985, -0.19155083129728512, 0.035272488035271894,
     0.61733844914093583, 0.717897082764412, 0.238760914607303, -0.054568958430834071,
     0.00058346274612580684, 0.03022487885827568, -0.01152821020767923, -0.013271967781817119,
     0.00061978088898558676, 0.0014009155259146807]
  hp2A :=
    [0.0014009155259146807, -0.00061978088898558676, -0.013271967781817119, 0.01152821020767923,
     0.03022487885827568, -0.00058346274612580684, -0.054568958430834071, -0.238760914607303,
     0.717897082764412, -0.61733844914093583, 0.035272488035271894, 0.19155083129728512,
     -0.018233770779395985, -0.06207778930288603, 0.0088592674934004842, 0.010264064027633142,
     -0.00047315449868008311, -0.0010694900329086053]
  bound := 18
  result := 18

def sym10 : Branch where
  lp1A :=
    [0.00077015980911449011, 9.5632670722894754e-05, -0.0086412992770224222,
     -0.0014653825813050513, 0.045927239231092203, 0.011609893903711381, -0.15949427888491757,
     -0.070880535783243853, 0.47169066693843925, 0.7695100370211071, 0.38382676106708546,
     -0.035536740473817552, -0.0319900568824278, 0.049994972077376687, 0.0057649120335819086,
     -0.02035493981231129, -0.00080435893201654491, 0.0045931735853118284, 5.7036083618494284e-05,
     -0.00045932942100465878]
  hp1A :=
    [0.00045932942100465878, 5.7036083618494284e-05, -0.0045931735853118284,
     -0.00080435893201654491, 0.02035493981231129, 0.0057649120335819086, -0.049994972077376687,
     -0.0319900568824278, 0.035536740473817552, 0.38382676106708546, -0.7695100370211071,
     0.47169066693843925, 0.070880535783243853, -0.15949427888491757, -0.011609893903711381,
     0.045927239231092203, 0.0014653825813050513, -0.0086412992770224222, -9.5632670722894754e-05,
     0.00077015980911449011]
  lp2A :=
    [-0.00045932942100465878, 5.7036083618494284e-05, 0.0045931735853118284,
     -0.00080435893201654491, -0.02035493981231129, 0.0057649120335819086, 0.049994972077376687,
     -0.0319900568824278, -0.035536740473817552, 0.38382676106708546, 0.7695100370211071,
     0.47169066693843925, -0.070880535783243853, -0.15949427888491757, 0.011609893903711381,
     0.045927239231092203, -0.0014653825813050513, -0.0086412992770224222, 9.5632670722894754e-05,
     0.00077015980911449011]
  hp2A :=
    [0.00077015980911449011, -9.5632670722894754e-05, -0.0086412992770224222,
     0.0014653825813050513, 0.045927239231092203, -0.011609893903711381, -0.15949427888491757,
     0.070880535783243853, 0.47169066693843925, -0.7695100370211071, 0.38382676106708546,
     0.035536740473817552, -0.0319900568824278, -0.049994972077376687, 0.0057649120335819086,
     0.02035493981231129, -0.00080435893201654491, -0.0045931735853118284, 5.7036083618494284e-05,
     0.00045932942100465878]
  bound := 20
  result := 20

def symlets : List (List String × Branch) :=
  [(["sym2"], sym2), (["sym3"], sym3), (["sym4"], sym4), (["sym5"], sym5), (["sym6"], sym6),
    (["sym7"], sym7), (["sym8"], sym8), (["sym9"], sym9), (["sym10"], sym10)]

theorem symlets_complete : ∀ branch ∈ symlets, branch.2.Complete := by decide

theorem symlets_opposed : ∀ branch ∈ symlets, branch.2.Opposed := by decide

end Gloc.Wavelets
