import FlowAudit.Unicode.Runs

/-!
# Marks

The characters whose general category is one of marks have the tag `Y`.
-/

namespace FlowAudit.Unicode

/-- The runs of marks. -/
def markText : List String :=
  ["lc 34Y 7n 7Y 7b 19Y 1 1Y 1 2Y 1 2Y 1 1Y 20 bY 1c lY g 1Y 2t 7Y 2 6Y 2 2Y 1 4Y z 1Y u rY 2j bY",
   "1m 9Y 9 1Y o 4Y 1 9Y 1 3Y 1 5Y 17 3Y 1o 8Y 16 oY 1 xY 1i 3Y 1 iY 1 7Y a 2Y t 3Y 1k 1Y 1 7Y 2",
   "2Y 2 3Y 9 1Y a 2Y q 1Y 2 3Y 1k 1Y 1 5Y 4 2Y 2 3Y 3 1Y u 2Y 3 1Y b 3Y 1k 1Y 1 8Y 1 3Y 1 3Y k 2Y",
   "m 6Y 1 3Y 1k 1Y 1 7Y 2 2Y 2 3Y 7 3Y a 2Y u 1Y 1n 5Y 3 3Y 1 4Y 9 1Y 14 5Y 1j 1Y 1 7Y 1 3Y 1 4Y",
   "7 2Y b 2Y t 3Y 1k 1Y 1 7Y 1 3Y 1 4Y 7 2Y b 2Y f 1Y c 4Y 1j 2Y 1 7Y 1 3Y 1 4Y 9 1Y a 2Y t 3Y 1y",
   "1Y 4 6Y 1 1Y 1 8Y i 2Y 1p 1Y 2 7Y c 8Y 2q 1Y 2 9Y b 7Y 21 2Y r 1Y 1 1Y 1 1Y 4 2Y 1d kY 1 2Y 5",
   "bY 1 10Y 9 1Y 2s kY n 4Y 4 3Y 1 3Y 2 7Y 3 4Y d cY 1 1Y a 4Y jj 3Y qa 4Y s 3Y t 2Y u 2Y 1s wY 9",
   "1Y 19 3Y 1 1Y 39 2Y y 1Y 3a cY 4 cY 63 5Y 1l aY 1 tY 2 1Y 1c vY 1d 5Y 1b hY 12 9Y c 3Y u dY 1k",
   "eY 1c kY 48 3Y 1 lY 4 1Y 6 1Y 2 3Y 5i 1sY k0 xY 2da 3Y 3x 1Y 2o wY fe 6Y 2x 2Y n9w 4Y 1 aY w",
   "2Y 28 2Y 7k 1Y 3 1Y 4 1Y n 5Y 4 1Y 2b 2Y 1e iY q iY d 1Y 12 8Y p dY 18 4Y 1b eY 10 1Y 1v eY c",
   "1Y 8 2Y 19 3Y 1e 1Y 1 3Y 2 2Y 5 2Y 1 1Y 15 5Y 5 2Y 6k 8Y 1 2Y fn4 1Y kh gY g gY r1 1Y 6a 1Y 45",
   "5Y 1ae 3Y 1 2Y 5 4Y 14 3Y 4 1Y 4l 2Y fx 4Y ar 2Y 28 3Y 1y bY 1d 4Y 3e 3Y 1h fY 15 1Y 2 2Y a 4Y",
   "19 bY 7 1Y 1p 3Y 10 eY g 2Y 18 1Y c 3Y 1c eY 8 4Y 1 2Y 2k cY 6 1Y 2 1Y 4d cY l 4Y 1j 2Y 1 7Y 2",
   "2Y 2 3Y 9 1Y a 2Y 2 7Y 3 5Y 5c iY n 1Y 29 kY 6j 7Y 2 9Y r 2Y 2a hY 2y dY 2t fY 74 fY 6t 6Y 1",
   "2Y 2 4Y 1 1Y 1 2Y 3x 7Y 2 7Y 3 1Y s aY 14 7Y 1 4Y 8 1Y 9 bY 1a gY b9 8Y 1 8Y 2a mY 1 eY 3e 6Y",
   "3 1Y 1 2Y 1 7Y 1 1Y 1u 5Y 1 2Y 1 5Y 9n 4Y 9 2Y 1 1Y 1c 7Y 3 5Y 459 1Y 6 fY asa 5Y 1n 7Y t4 1Y",
   "1 1jY 7 4Y 29 1Y b 2Y f57 2Y 3mp 1aY 2 nY f2 5Y 3 6Y 8 8Y 2 7Y u 4Y 44 3Y 1iz 1jY 4 1eY 8 1Y e",
   "1Y m 5Y 1 fY 11s 7Y 1 hY 2 7Y 1 2Y 1 5Y 2s 1Y 4g 7Y af 1Y 1p 4Y e4 4Y rk 7Y 31 7Y gzhx 6oY",
   "47bk"]

/-- The runs of marks. The lines are read once. -/
def markRuns : Runs :=
  .parse markText

end FlowAudit.Unicode
