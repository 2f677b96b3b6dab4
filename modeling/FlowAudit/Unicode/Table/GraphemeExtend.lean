import FlowAudit.Unicode.Runs

/-!
# Characters that extend the one before

The characters with the property `Grapheme_Extend` have the tag `Y`.
-/

namespace FlowAudit.Unicode

/-- The runs of extending characters. -/
def graphemeExtendText : List String :=
  ["lc 34Y 7n 7Y 7b 19Y 1 1Y 1 2Y 1 2Y 1 1Y 20 bY 1c lY g 1Y 2t 7Y 2 6Y 2 2Y 1 4Y z 1Y u rY 2j bY",
   "1m 9Y 9 1Y o 4Y 1 9Y 1 3Y 1 5Y 17 3Y 1o 8Y 16 oY 1 wY 1j 1Y 1 1Y 4 8Y 4 1Y 3 7Y a 2Y t 1Y 1m",
   "1Y 1 1Y 2 4Y 8 1Y 9 1Y a 2Y q 1Y 2 2Y 1l 1Y 4 2Y 4 2Y 2 3Y 3 1Y u 2Y 3 1Y b 2Y 1l 1Y 4 5Y 1 2Y",
   "4 1Y k 2Y m 6Y 1 1Y 1m 1Y 1 2Y 1 4Y 8 1Y 7 3Y a 2Y u 1Y 1n 1Y 1 1Y c 1Y 9 1Y 14 1Y 3 1Y 1j 1Y",
   "1 3Y 5 3Y 1 4Y 7 2Y b 2Y t 1Y 1m 1Y 2 1Y 2 1Y 3 1Y 5 2Y 7 2Y b 2Y s 2Y 1l 2Y 1 1Y 2 4Y 8 1Y 9",
   "1Y a 2Y t 1Y 20 1Y 4 1Y 2 3Y 1 1Y 8 1Y 29 1Y 2 7Y c 8Y 2q 1Y 2 9Y b 7Y 21 2Y r 1Y 1 1Y 1 1Y 1j",
   "eY 1 5Y 1 2Y 5 bY 1 10Y 9 1Y 2u 4Y 1 6Y 1 2Y 2 2Y p 2Y 4 3Y g 4Y d 1Y 2 2Y 6 1Y f 1Y jj 3Y qa",
   "3Y t 2Y u 2Y u 2Y 1s 2Y 1 7Y 8 1Y 2 bY 9 1Y 19 3Y 1 1Y 39 2Y y 1Y 3a 3Y 4 2Y 9 1Y 6 3Y 63 2Y 2",
   "1Y 1m 1Y 1 7Y 1 1Y 1 1Y 2 8Y 6 aY 2 1Y 1c vY 1d 4Y 1c 7Y 1 1Y 5 1Y 14 9Y c 2Y w 4Y 2 2Y 1 3Y",
   "1k 1Y 1 2Y 3 1Y 1 3Y 1m 8Y 2 2Y 48 3Y 1 dY 1 7Y 4 1Y 6 1Y 3 2Y 5i 1sY ek 1Y 5f xY 2da 3Y 3x 1Y",
   "2o wY fe 6Y 2x 2Y n9w 4Y 1 aY w 2Y 28 2Y 7k 1Y 3 1Y 4 1Y p 2Y 5 1Y 47 2Y q iY d 1Y 12 8Y p bY",
   "1a 3Y 1c 1Y 2 4Y 2 2Y 13 1Y 1v 6Y 2 2Y 2 2Y c 1Y 8 1Y 1b 1Y 1f 1Y 1 3Y 2 2Y 5 2Y 1 1Y 16 2Y 8",
   "1Y 6m 1Y 2 1Y 4 1Y fn4 1Y kh gY g gY a6 2Y gt 1Y 6a 1Y 45 5Y 1ae 3Y 1 2Y 5 4Y 14 3Y 4 1Y 4l 2Y",
   "fx 4Y ar 2Y 28 3Y 1y bY 1d 4Y 3f 1Y 1i fY 15 1Y 2 2Y a 3Y 1d 4Y 2 2Y 7 1Y 1p 3Y 10 5Y 1 8Y 1q",
   "1Y c 2Y 1g 9Y a 4Y 2 1Y 2n 3Y 2 1Y 1 2Y 6 1Y 2 1Y 4d 1Y 3 8Y l 2Y 1l 2Y 1 1Y 1 1Y m 1Y e 7Y 3",
   "5Y 5f 8Y 2 3Y 1 1Y n 1Y 29 1Y 2 6Y 1 1Y 2 1Y 1 2Y 1 2Y 6j 1Y 2 4Y 6 2Y 1 2Y r 2Y 2d 8Y 2 1Y 1",
   "2Y 2y 1Y 1 1Y 2 6Y 1 1Y 2t 3Y 2 4Y 1 5Y 77 9Y 1 2Y 6t 1Y a 2Y 1 1Y 4 1Y 40 4Y 2 2Y 4 1Y w aY",
   "14 6Y 2 4Y 8 1Y 9 6Y 2 3Y 1a dY 1 2Y ba 7Y 1 6Y 1 1Y 2a mY 2 7Y 1 2Y 1 2Y 3e 6Y 3 1Y 1 2Y 1 7Y",
   "1 1Y 20 2Y 3 1Y 1 1Y 9n 2Y b 2Y 1g 5Y 5 1Y 1 1Y 459 1Y 6 fY asa 5Y 1n 7Y t4 1Y 1r 4Y 29 1Y f5k",
   "2Y 3mp 1aY 2 nY f2 1Y 1 3Y 4 5Y 8 8Y 2 7Y u 4Y 44 3Y 1iz 1jY 4 1eY 8 1Y e 1Y m 5Y 1 fY 11s 7Y",
   "1 hY 2 7Y 1 2Y 1 5Y 2s 1Y 4g 7Y af 1Y 1p 4Y e4 4Y rk 7Y 31 7Y gzbp 2oY 3k 6oY 47bk"]

/-- The runs of extending characters. The lines are read once. -/
def graphemeExtendRuns : Runs :=
  .parse graphemeExtendText

end FlowAudit.Unicode
