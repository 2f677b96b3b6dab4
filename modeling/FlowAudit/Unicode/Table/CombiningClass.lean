import FlowAudit.Unicode.Runs

/-!
# Canonical combining classes

The combining class of every character, as a number behind `C`; class zero has no tag.
-/

namespace FlowAudit.Unicode

/-- The runs of the combining classes. -/
def combiningClassText : List String :=
  ["lc lC6e 1C6g 4C64 1C6g 1C60 5C64 2C5m 4C64 2C5m bC64 5C1 4C64 8C6e 1C6o 1C6e 3C64 3C6e 2C64 1",
   "3C6e 4C64 1C6e 1C6g 2C64 1C6e 1C6h 2C6i 1C6h 2C6i 1C6h dC6e 7n 5C6e 7d 1C64 4C6e 1C64 3C6e",
   "1C66 1C64 6C6e 6C64 2C6e 1C64 2C6e 1C66 1C6c 1C6e 1Ca 1Cb 1Cc 1Cd 1Ce 1Cf 1Cg 1Ch 1Ci 2Cj 1Ck",
   "1Cl 1Cm 1 1Cn 1 1Co 1Cp 1 1C6e 1C64 1 1Ci 20 8C6e 1Cu 1Cv 1Cw 1c 1Cr 1Cs 1Ct 1Cu 1Cv 1Cw 1Cx",
   "1Cy 2C6e 2C64 5C6e 1C64 2C6e 1C64 g 1Cz 2t 7C6e 2 4C6e 1C64 1C6e 2 2C6e 1 1C64 2C6e 1C64 z",
   "1C10 u 1C6e 1C64 2C6e 1C64 2C6e 3C64 1C6e 2C64 1C6e 1C64 3C6e 1C64 1C6e 1C64 1C6e 1C64 1C6e",
   "1C64 2C6e 4g 7C6e 1C64 1C6e 9 1C64 o 4C6e 1 9C6e 1 3C6e 1 5C6e 17 3C64 1o 1C6e 3C64 4C6e 16",
   "5C6e 5C64 eC6e 1 1C64 2C6e 1C64 2C6e 1C64 3C6e 3C64 1Cr 1Cs 1Ct 3C6e 1C64 2C6e 2C64 5C6e 1o",
   "1C7 g 1C9 3 1C6e 1C64 2C6e 2v 1C7 g 1C9 1c 1C6e 1p 1C7 g 1C9 32 1C7 g 1C9 32 1C7 g 1C9 3j 1C9",
   "32 1C7 g 1C9 7 1C2c 1C2j 2t 1C7 g 1C9 31 2C9 g 1C9 3g 1C9 31 2C2v 1C9 d 4C2z 30 2C3a 1C9 d",
   "4C3e 24 2C64 r 1C64 1 1C64 1 1C60 1j 1C3l 1C3m 1 1C3o 5 4C3m 2 1C3m 1 2C6e 1C9 1 2C6e 1q 1C64",
   "34 1C7 1 2C9 2a 1C64 jz 3C6e qc 2C9 u 1C9 4d 1C9 a 1C6e 5n 1C6c 3z 1C66 1C6e 1C64 63 1C6e 1C64",
   "1z 1C9 k 8C6e 2 1C64 1c 5C6e 6C64 2C6e 1C64 1 2C64 2C6e 2C64 5C6e 1C64 4C6e 2t 1C7 f 1C9 12",
   "1C6e 1C64 7C6e 1i 2C9 1m 1C7 b 2C9 1v 1C7 48 3C6e 1 1C1 5C64 2C6e 4C64 1C6e 1 7C1 4 1C64 6",
   "1C6e 3 2C6e 5i 2C6e 1C64 7C6e 1C64 2C6e 1C6i 1C5y 1C64 1C5m 11C6e 1C6g 2C6c 1C64 1C62 1C6e",
   "1C6h 1C64 1C6e 1C64 k0 2C6e 2C1 4C6e 3C1 2C6e 4 1C6e 3 2C1 1C6e 1C64 1C6e 2C1 4C64 1C6e 2da",
   "3C6e 3x 1C9 2o wC6e fe 1C62 1C6c 1C6g 1C66 2C68 2x 2C8 n9w 1C6e 4 aC6e w 2C6e 28 2C6e 7o 1C9",
   "11 1C9 47 1C9 r iC6e 1l 3C64 11 1C9 2n 1C7 c 1C9 6n 1C6e 1 2C6e 1C64 2 2C6e 5 2C6e 1 1C6e 1g",
   "1C9 6u 1C9 fn4 1Cq ld 7C6e 7C64 2C6e r1 1C64 6a 1C64 45 5C6e 1aq 1C64 1 1C6e 14 1C6e 1C1 1C64",
   "4 1C9 4l 1C6e 1C64 fx 4C6e ar 2C6e 28 3C64 1y 2C64 3C6e 1C64 1C6e 4C64 1d 1C6e 1C64 1C6e 1C64",
   "5c 1C9 15 1C9 e 1C9 1l 1C9 1C7 1x 3C6e 1c 2C9 1q 1C7 24 1C9 9 1C7 2y 1C9 1C7 4y 1C7 1C9 28 2C7",
   "g 1C9 o 7C6e 3 5C6e 5p 1C9 3 1C7 n 1C6e 2r 1C9 1C7 6z 1C9 1C7 3i 1C9 3a 1C9 1C7 37 1C9 7h 1C9",
   "1C7 76 2C9 4 1C7 4c 1C9 2b 1C9 i 1C9 29 1C9 bp 1C9 76 1C7 1 2C9 29 1C9 bt 2C9 ey5 5C1 1n 7C6e",
   "xl 2C6 f58 1C1 43q 2C60 3C1 3 1C6a 5C60 8 8C64 2 5C6e 2C64 u 4C6e 44 3C6e 2pn 7C6e 1 hC6e 2",
   "7C6e 1 2C6e 1 5C6e 2s 1C6e 4g 7C6e af 1C6e 1p 4C6e e4 2C6g 1C64 1C6e rk 7C64 31 6C6e 1C7 l705"]

/-- The runs of the combining classes. The lines are read once. -/
def combiningClassRuns : Runs :=
  .parse combiningClassText

end FlowAudit.Unicode
