import Gloc.Wavelets.Coefficients

/-!
# Biorthogonal wavelets

The branches of `filtcoef` for `bior1.1` to `bior6.8`.
-/

namespace Gloc.Wavelets

def bior11 : Branch where
  lp1A := [0.70710678118654757, 0.70710678118654757]
  hp1A := [-0.70710678118654757, 0.70710678118654757]
  lp2A := [0.70710678118654757, 0.70710678118654757]
  hp2A := [0.70710678118654757, -0.70710678118654757]
  bound := 2
  result := 2

def bior13 : Branch where
  lp1A :=
    [-0.088388347648318447, 0.088388347648318447, 0.70710678118654757, 0.70710678118654757,
     0.088388347648318447, -0.088388347648318447]
  hp1A := [0.0, 0.0, -0.70710678118654757, 0.70710678118654757, 0.0, 0.0]
  lp2A := [0.0, 0.0, 0.70710678118654757, 0.70710678118654757, 0.0, 0.0]
  hp2A :=
    [-0.088388347648318447, -0.088388347648318447, 0.70710678118654757, -0.70710678118654757,
     0.088388347648318447, 0.088388347648318447]
  bound := 6
  result := 6

def bior15 : Branch where
  lp1A :=
    [0.01657281518405971, -0.01657281518405971, -0.12153397801643787, 0.12153397801643787,
     0.70710678118654757, 0.70710678118654757, 0.12153397801643787, -0.12153397801643787,
     -0.01657281518405971, 0.01657281518405971]
  hp1A := [0.0, 0.0, 0.0, 0.0, -0.70710678118654757, 0.70710678118654757, 0.0, 0.0, 0.0, 0.0]
  lp2A := [0.0, 0.0, 0.0, 0.0, 0.70710678118654757, 0.70710678118654757, 0.0, 0.0, 0.0, 0.0]
  hp2A :=
    [0.01657281518405971, 0.01657281518405971, -0.12153397801643787, -0.12153397801643787,
     0.70710678118654757, -0.70710678118654757, 0.12153397801643787, 0.12153397801643787,
     -0.01657281518405971, -0.01657281518405971]
  bound := 10
  result := 10

def bior22 : Branch where
  lp1A :=
    [0.0, -0.17677669529663689, 0.35355339059327379, 1.0606601717798214, 0.35355339059327379,
     -0.17677669529663689]
  hp1A := [0.0, 0.35355339059327379, -0.70710678118654757, 0.35355339059327379, 0.0, 0.0]
  lp2A := [0.0, 0.35355339059327379, 0.70710678118654757, 0.35355339059327379, 0.0, 0.0]
  hp2A :=
    [0.0, 0.17677669529663689, 0.35355339059327379, -1.0606601717798214, 0.35355339059327379,
     0.17677669529663689]
  bound := 6
  result := 6

def bior24 : Branch where
  lp1A :=
    [0.0, 0.033145630368119419, -0.066291260736238838, -0.17677669529663689, 0.4198446513295126,
     0.99436891104358249, 0.4198446513295126, -0.17677669529663689, -0.066291260736238838,
     0.033145630368119419]
  hp1A :=
    [0.0, 0.0, 0.0, 0.35355339059327379, -0.70710678118654757, 0.35355339059327379, 0.0, 0.0, 0.0,
     0.0]
  lp2A :=
    [0.0, 0.0, 0.0, 0.35355339059327379, 0.70710678118654757, 0.35355339059327379, 0.0, 0.0, 0.0,
     0.0]
  hp2A :=
    [0.0, -0.033145630368119419, -0.066291260736238838, 0.17677669529663689, 0.4198446513295126,
     -0.99436891104358249, 0.4198446513295126, 0.17677669529663689, -0.066291260736238838,
     -0.033145630368119419]
  bound := 10
  result := 10

def bior26 : Branch where
  lp1A :=
    [0.0, -0.0069053396600248784, 0.013810679320049757, 0.046956309688169176, -0.10772329869638811,
     -0.16987135563661201, 0.44746600996961211, 0.96674755240348298, 0.44746600996961211,
     -0.16987135563661201, -0.10772329869638811, 0.046956309688169176, 0.013810679320049757,
     -0.0069053396600248784]
  hp1A :=
    [0.0, 0.0, 0.0, 0.0, 0.0, 0.35355339059327379, -0.70710678118654757, 0.35355339059327379, 0.0,
     0.0, 0.0, 0.0, 0.0, 0.0]
  lp2A :=
    [0.0, 0.0, 0.0, 0.0, 0.0, 0.35355339059327379, 0.70710678118654757, 0.35355339059327379, 0.0,
     0.0, 0.0, 0.0, 0.0, 0.0]
  hp2A :=
    [0.0, 0.0069053396600248784, 0.013810679320049757, -0.046956309688169176, -0.10772329869638811,
     0.16987135563661201, 0.44746600996961211, -0.96674755240348298, 0.44746600996961211,
     0.16987135563661201, -0.10772329869638811, -0.046956309688169176, 0.013810679320049757,
     0.0069053396600248784]
  bound := 14
  result := 14

def bior28 : Branch where
  lp1A :=
    [0.0, 0.0015105430506304422, -0.0030210861012608843, -0.012947511862546647,
     0.028916109826354178, 0.052998481890690945, -0.13491307360773608, -0.16382918343409025,
     0.46257144047591658, 0.95164212189717856, 0.46257144047591658, -0.16382918343409025,
     -0.13491307360773608, 0.052998481890690945, 0.028916109826354178, -0.012947511862546647,
     -0.0030210861012608843, 0.0015105430506304422]
  hp1A :=
    [0.0, 0.0, 0.0, 0.0, 0.0, 0.0, 0.0, 0.35355339059327379, -0.70710678118654757,
     0.35355339059327379, 0.0, 0.0, 0.0, 0.0, 0.0, 0.0, 0.0, 0.0]
  lp2A :=
    [0.0, 0.0, 0.0, 0.0, 0.0, 0.0, 0.0, 0.35355339059327379, 0.70710678118654757,
     0.35355339059327379, 0.0, 0.0, 0.0, 0.0, 0.0, 0.0, 0.0, 0.0]
  hp2A :=
    [0.0, -0.0015105430506304422, -0.0030210861012608843, 0.012947511862546647,
     0.028916109826354178, -0.052998481890690945, -0.13491307360773608, 0.16382918343409025,
     0.46257144047591658, -0.95164212189717856, 0.46257144047591658, 0.16382918343409025,
     -0.13491307360773608, -0.052998481890690945, 0.028916109826354178, 0.012947511862546647,
     -0.0030210861012608843, -0.0015105430506304422]
  bound := 18
  result := 18

def bior31 : Branch where
  lp1A := [-0.35355339059327379, 1.0606601717798214, 1.0606601717798214, -0.35355339059327379]
  hp1A := [-0.17677669529663689, 0.53033008588991071, -0.53033008588991071, 0.17677669529663689]
  lp2A := [0.17677669529663689, 0.53033008588991071, 0.53033008588991071, 0.17677669529663689]
  hp2A := [-0.35355339059327379, -1.0606601717798214, 1.0606601717798214, 0.35355339059327379]
  bound := 4
  result := 4

def bior33 : Branch where
  lp1A :=
    [0.066291260736238838, -0.19887378220871652, -0.15467960838455727, 0.99436891104358249,
     0.99436891104358249, -0.15467960838455727, -0.19887378220871652, 0.066291260736238838]
  hp1A :=
    [0.0, 0.0, -0.17677669529663689, 0.53033008588991071, -0.53033008588991071,
     0.17677669529663689, 0.0, 0.0]
  lp2A :=
    [0.0, 0.0, 0.17677669529663689, 0.53033008588991071, 0.53033008588991071, 0.17677669529663689,
     0.0, 0.0]
  hp2A :=
    [0.066291260736238838, 0.19887378220871652, -0.15467960838455727, -0.99436891104358249,
     0.99436891104358249, 0.15467960838455727, -0.19887378220871652, -0.066291260736238838]
  bound := 8
  result := 8

def bior35 : Branch where
  lp1A :=
    [-0.013810679320049757, 0.041432037960149271, 0.052480581416189075, -0.26792717880896527,
     -0.071815532464258744, 0.96674755240348298, 0.96674755240348298, -0.071815532464258744,
     -0.26792717880896527, 0.052480581416189075, 0.041432037960149271, -0.013810679320049757]
  hp1A :=
    [0.0, 0.0, 0.0, 0.0, -0.17677669529663689, 0.53033008588991071, -0.53033008588991071,
     0.17677669529663689, 0.0, 0.0, 0.0, 0.0]
  lp2A :=
    [0.0, 0.0, 0.0, 0.0, 0.17677669529663689, 0.53033008588991071, 0.53033008588991071,
     0.17677669529663689, 0.0, 0.0, 0.0, 0.0]
  hp2A :=
    [-0.013810679320049757, -0.041432037960149271, 0.052480581416189075, 0.26792717880896527,
     -0.071815532464258744, -0.96674755240348298, 0.96674755240348298, 0.071815532464258744,
     -0.26792717880896527, -0.052480581416189075, 0.041432037960149271, 0.013810679320049757]
  bound := 12
  result := 12

def bior37 : Branch where
  lp1A :=
    [0.0030210861012608843, -0.0090632583037826529, -0.016831765421310641, 0.074663985074019001,
     0.031332978707362888, -0.301159125922835, -0.026499240945345472, 0.95164212189717856,
     0.95164212189717856, -0.026499240945345472, -0.301159125922835, 0.031332978707362888,
     0.074663985074019001, -0.016831765421310641, -0.0090632583037826529, 0.0030210861012608843]
  hp1A :=
    [0.0, 0.0, 0.0, 0.0, 0.0, 0.0, -0.17677669529663689, 0.53033008588991071, -0.53033008588991071,
     0.17677669529663689, 0.0, 0.0, 0.0, 0.0, 0.0, 0.0]
  lp2A :=
    [0.0, 0.0, 0.0, 0.0, 0.0, 0.0, 0.17677669529663689, 0.53033008588991071, 0.53033008588991071,
     0.17677669529663689, 0.0, 0.0, 0.0, 0.0, 0.0, 0.0]
  hp2A :=
    [0.0030210861012608843, 0.0090632583037826529, -0.016831765421310641, -0.074663985074019001,
     0.031332978707362888, 0.301159125922835, -0.026499240945345472, -0.95164212189717856,
     0.95164212189717856, 0.026499240945345472, -0.301159125922835, -0.031332978707362888,
     0.074663985074019001, 0.016831765421310641, -0.0090632583037826529, -0.0030210861012608843]
  bound := 16
  result := 16

def bior39 : Branch where
  lp1A :=
    [-0.00067974437278369901, 0.0020392331183510968, 0.0050603192196119811, -0.020618912641105536,
     -0.014112787930175846, 0.09913478249423216, 0.012300136269419315, -0.32019196836077857,
     0.0020500227115698858, 0.94212570067820678, 0.94212570067820678, 0.0020500227115698858,
     -0.32019196836077857, 0.012300136269419315, 0.09913478249423216, -0.014112787930175846,
     -0.020618912641105536, 0.0050603192196119811, 0.0020392331183510968, -0.00067974437278369901]
  hp1A :=
    [0.0, 0.0, 0.0, 0.0, 0.0, 0.0, 0.0, 0.0, -0.17677669529663689, 0.53033008588991071,
     -0.53033008588991071, 0.17677669529663689, 0.0, 0.0, 0.0, 0.0, 0.0, 0.0, 0.0, 0.0]
  lp2A :=
    [0.0, 0.0, 0.0, 0.0, 0.0, 0.0, 0.0, 0.0, 0.17677669529663689, 0.53033008588991071,
     0.53033008588991071, 0.17677669529663689, 0.0, 0.0, 0.0, 0.0, 0.0, 0.0, 0.0, 0.0]
  hp2A :=
    [-0.00067974437278369901, -0.0020392331183510968, 0.0050603192196119811, 0.020618912641105536,
     -0.014112787930175846, -0.09913478249423216, 0.012300136269419315, 0.32019196836077857,
     0.0020500227115698858, -0.94212570067820678, 0.94212570067820678, -0.0020500227115698858,
     -0.32019196836077857, -0.012300136269419315, 0.09913478249423216, 0.014112787930175846,
     -0.020618912641105536, -0.0050603192196119811, 0.0020392331183510968, 0.00067974437278369901]
  bound := 20
  result := 20

def bior44 : Branch where
  lp1A :=
    [0.0, 0.03782845550726404, -0.023849465019556843, -0.11062440441843718, 0.37740285561283066,
     0.85269867900889385, 0.37740285561283066, -0.11062440441843718, -0.023849465019556843,
     0.03782845550726404]
  hp1A :=
    [0.0, -0.064538882628697058, 0.040689417609164058, 0.41809227322161724, -0.7884856164055829,
     0.41809227322161724, 0.040689417609164058, -0.064538882628697058, 0.0, 0.0]
  lp2A :=
    [0.0, -0.064538882628697058, -0.040689417609164058, 0.41809227322161724, 0.7884856164055829,
     0.41809227322161724, -0.040689417609164058, -0.064538882628697058, 0.0, 0.0]
  hp2A :=
    [0.0, -0.03782845550726404, -0.023849465019556843, 0.11062440441843718, 0.37740285561283066,
     -0.85269867900889385, 0.37740285561283066, 0.11062440441843718, -0.023849465019556843,
     -0.03782845550726404]
  bound := 10
  result := 10

def bior55 : Branch where
  lp1A :=
    [0.0, 0.0, 0.03968708834740544, 0.0079481086372403219, -0.054463788468236907,
     0.34560528195603346, 0.73666018142821055, 0.34560528195603346, -0.054463788468236907,
     0.0079481086372403219, 0.03968708834740544, 0.0]
  hp1A :=
    [-0.013456709459118716, -0.0026949668801115071, 0.13670658466432914, -0.093504697400938863,
     -0.47680326579848425, 0.89950610974864842, -0.47680326579848425, -0.093504697400938863,
     0.13670658466432914, -0.0026949668801115071, -0.013456709459118716, 0.0]
  lp2A :=
    [0.013456709459118716, -0.0026949668801115071, -0.13670658466432914, -0.093504697400938863,
     0.47680326579848425, 0.89950610974864842, 0.47680326579848425, -0.093504697400938863,
     -0.13670658466432914, -0.0026949668801115071, 0.013456709459118716, 0.0]
  hp2A :=
    [0.0, 0.0, 0.03968708834740544, -0.0079481086372403219, -0.054463788468236907,
     -0.34560528195603346, 0.73666018142821055, -0.34560528195603346, -0.054463788468236907,
     -0.0079481086372403219, 0.03968708834740544, 0.0]
  bound := 12
  result := 12

def bior68 : Branch where
  lp1A :=
    [0.0, 0.0019088317364812906, -0.0019142861290887667, -0.016990639867602342,
     0.01193456527972926, 0.04973290349094079, -0.077263173167204144, -0.09405920349573646,
     0.42079628460982682, 0.82592299745840225, 0.42079628460982682, -0.09405920349573646,
     -0.077263173167204144, 0.04973290349094079, 0.01193456527972926, -0.016990639867602342,
     -0.0019142861290887667, 0.0019088317364812906]
  hp1A :=
    [0.0, 0.0, 0.0, 0.014426282505624435, -0.014467504896790148, -0.078722001062628819,
     0.040367979030339923, 0.41784910915027457, -0.75890772945365415, 0.41784910915027457,
     0.040367979030339923, -0.078722001062628819, -0.014467504896790148, 0.014426282505624435, 0.0,
     0.0, 0.0, 0.0]
  lp2A :=
    [0.0, 0.0, 0.0, 0.014426282505624435, 0.014467504896790148, -0.078722001062628819,
     -0.040367979030339923, 0.41784910915027457, 0.75890772945365415, 0.41784910915027457,
     -0.040367979030339923, -0.078722001062628819, 0.014467504896790148, 0.014426282505624435, 0.0,
     0.0, 0.0, 0.0]
  hp2A :=
    [0.0, -0.0019088317364812906, -0.0019142861290887667, 0.016990639867602342,
     0.01193456527972926, -0.04973290349094079, -0.077263173167204144, 0.09405920349573646,
     0.42079628460982682, -0.82592299745840225, 0.42079628460982682, 0.09405920349573646,
     -0.077263173167204144, -0.04973290349094079, 0.01193456527972926, 0.016990639867602342,
     -0.0019142861290887667, -0.0019088317364812906]
  bound := 18
  result := 18

def biorthogonal : List (List String × Branch) :=
  [(["bior1.1"], bior11), (["bior1.3"], bior13), (["bior1.5"], bior15), (["bior2.2"], bior22),
    (["bior2.4"], bior24), (["bior2.6"], bior26), (["bior2.8"], bior28), (["bior3.1"], bior31),
    (["bior3.3"], bior33), (["bior3.5"], bior35), (["bior3.7"], bior37), (["bior3.9"], bior39),
    (["bior4.4"], bior44), (["bior5.5"], bior55), (["bior6.8"], bior68)]

theorem biorthogonal_complete : ∀ branch ∈ biorthogonal, branch.2.Complete := by decide

theorem biorthogonal_opposed : ∀ branch ∈ biorthogonal, branch.2.Opposed := by decide

end Gloc.Wavelets
