import FlowAudit.Unicode.Runs

/-!
# Joining types

The joining type of every character, by its short name; characters that do not join have no tag.
-/

namespace FlowAudit.Unicode

/-- The runs of the joining types. -/
def joiningTypeText : List String :=
  ["4t 1T gi 34T 7n 7T 7b 19T 1 1T 1 2T 1 2T 1 1T 20 bT 1 1T 3 1D 1 4R 1D 1R 1D 1R 5D 4R dD 1C 7D",
   "1R 2D lT e 2D 1T 3R 1 3R gD iR 12D 1R 2D 9R 1D 1R 1D 1R 2D 2R 1 1R 7T 2 6T 2 2T 1 4T 2R a 3D 2",
   "1D f 1T 1R 1T 3D 5R 4D 1R 9D 1R 1D 1R 1D 1R 2D 1R rT 2 1R bD 3R fD 2R 4D 1R 1D 2R 3D 2R 6D 12",
   "bT p xD 9T 6 1C 2 1T o 4T 1 9T 1 3T 1 5T i 1R 5D 2R 1D 1R aD 1R 1D 3R 3T 4 1D 1 4D 1 1R 1D 2R",
   "5 jR 3C 1D 2 5D 1R 1D 7 9T aD 3R 1 1R 2D 2R 6D 1R fD 1 oT 1 wT 1j 1T 1 1T 4 8T 4 1T 3 7T a 2T",
   "t 1T 1m 1T 4 4T 8 1T k 2T q 1T 2 2T 1l 1T 4 2T 4 2T 2 3T 3 1T u 2T 3 1T b 2T 1l 1T 4 5T 1 2T 4",
   "1T k 2T m 6T 1 1T 1m 1T 2 1T 1 4T 8 1T 7 2T b 2T u 1T 1p 1T c 1T 1e 1T 3 1T 1j 1T 1 3T 5 3T 1",
   "4T 7 2T b 2T t 1T 1m 1T 2 1T 6 1T 5 2T k 2T s 2T 1l 2T 4 4T 8 1T k 2T t 1T 20 1T 7 3T 1 1T 2i",
   "1T 2 7T c 8T 2q 1T 2 9T b 7T 21 2T r 1T 1 1T 1 1T 1j eT 1 5T 1 2T 5 bT 1 10T 9 1T 2u 4T 1 6T 1",
   "2T 2 2T p 2T 4 3T g 4T d 1T 2 2T 6 1T f 1T jj 3T qa 3T t 2T u 2T u 2T 1s 2T 1 7T 8 1T 2 bT 9",
   "1T 15 1D 2 1C 3T 1 1T g 2hD c 2T yD 1T 1D 39 3T 4 2T 9 1T 6 3T 63 2T 2 1T 1m 1T 1 7T 1 1T 1 1T",
   "2 8T 6 aT 2 1T 1c 1aT 2 cT k 4T 1c 1T 1 5T 1 1T 5 1T 14 9T c 2T w 4T 2 2T 1 3T 1k 1T 1 2T 3 1T",
   "1 3T 1m 8T 2 2T 48 3T 1 dT 1 7T 4 1T 6 1T 3 2T 5i 1sT ej 1T 1 1C 2T q 5T 1d 5T 5 6T 2o xT 2da",
   "3T 3x 1T 2o wT fe 4T 2z 2T n9w 4T 1 aT w 2T 28 2T 7k 1T 3 1T 4 1T p 2T 5 1T j 1eD 1L 29 2T q",
   "iT d 1T 12 8T p bT 1a 3T 1c 1T 2 4T 2 2T 13 1T 1v 6T 2 2T 2 2T c 1T 8 1T 1b 1T 1f 1T 1 3T 2 2T",
   "5 2T 1 1T 16 2T 8 1T 6m 1T 2 1T 4 1T fn4 1T kh gT g gT 5r 1T 6x 3T e9 1T 6a 1T 45 5T 1ae 3T 1",
   "2T 5 4T 14 3T 4 1T 3k 5D 1R 1 1R 1 2R 2 1L 5R 4D 1L 5D 1R 3D 1R 2 1R 2T 4 4D 1R 40 1D 1R 1D 3R",
   "3D 1R 2D 1R 1D 2R 1D 1R n 4R 2D 9d 1L xD 1R 1D 4T 1t 5T 8t 2T l 1R 2D 1 2D 1e 6T 1c 3D 1R hD 1",
   "bT 3D 1R r 4D 2R cD 4T 16 1D 1 2D 3R 1 1D 2R 2D 1R 2D 1 1D 2R 1D 4 1R 1D 1L 1h 1T 1i fT 15 1T",
   "2 2T a 3T 1d 4T 2 2T 7 1T 1p 3T 10 5T 1 8T 1q 1T c 2T 1g 9T a 4T 2 1T 2n 3T 2 1T 1 2T 6 1T 2",
   "1T 4d 1T 3 8T l 2T 1l 2T 3 1T 11 7T 3 5T 1y 6T d 1T 1 1T 1 1T e 2T 2d 8T 2 3T 1 1T n 1T 2c 6T",
   "1 1T 4 2T 1 2T 6m 4T 6 2T 1 2T r 2T 2d 8T 2 1T 1 2T 2y 1T 1 1T 2 6T 1 1T 2t 1T 1 1T 2 4T 1 5T",
   "77 9T 1 2T 74 2T 1 1T 4 1T 40 4T 2 2T 4 1T w aT 14 6T 2 4T 8 1T 9 6T 2 3T 1a dT 1 2T 5i 1T 1",
   "3T 1 1T 5l 7T 1 6T 1 1T 2a mT 2 7T 1 2T 1 2T 3e 6T 3 1T 1 2T 1 7T 1 1T 20 2T 3 1T 1 1T 9n 2T b",
   "2T 1g 5T 5 1T 1 1T n 1T 445 hT 6 fT 8ug cT 3 3T 1xc 5T 1n 7T t4 1T 1r 4T 29 1T f5k 2T 1 4T 3mk",
   "1aT 2 nT f4 3T 9 gT 2 7T u 4T 44 3T 1iz 1jT 4 1eT 8 1T e 1T m 5T 1 fT 11s 7T 1 hT 2 7T 1 2T 1",
   "5T 2s 1T 4g 7T af 1T 1p 4T e4 4T 72 2T 6r 1T 2 1T 7 2T 5 1T d6 7T 15 1wD 8T gzat 1T u 2oT 3k",
   "6oT 47bk"]

/-- The runs of the joining types. The lines are read once. -/
def joiningTypeRuns : Runs :=
  .parse joiningTypeText

end FlowAudit.Unicode
