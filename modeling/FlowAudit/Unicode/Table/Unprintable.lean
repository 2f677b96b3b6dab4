import FlowAudit.Unicode.Runs

/-!
# Characters that cannot be shown

The characters that cannot be shown as they are have the tag `Y`: controls, formats, blanks other than
the space, private ones and numbers without character.
-/

namespace FlowAudit.Unicode

/-- The runs of unprintable characters. -/
def unprintableText : List String :=
  ["wY 2n yY c 1Y ju 2Y 6 4Y 7 1Y 1 1Y k 1Y b1 1Y 12 2Y 1e 2Y 3 1Y 1j 8Y r 4Y 6 hY m 1Y 5c 1Y 1c",
   "2Y 1n 2Y 2t eY 1n 2Y 1d 2Y f 1Y s 2Y 1 1Y b 5Y w 7Y 23 1Y 4h 1Y 8 2Y 2 2Y m 1Y 7 1Y 1 3Y 4 2Y",
   "9 2Y 2 2Y 4 8Y 1 4Y 2 1Y 5 2Y p 2Y 3 1Y 6 4Y 2 2Y m 1Y 7 1Y 2 1Y 2 1Y 2 2Y 1 1Y 5 4Y 2 2Y 3 3Y",
   "1 7Y 4 1Y 1 7Y h aY 3 1Y 9 1Y 3 1Y m 1Y 7 1Y 2 1Y 5 2Y a 1Y 3 1Y 3 2Y 1 fY 4 2Y c 7Y 7 1Y 3 1Y",
   "8 2Y 2 2Y m 1Y 7 1Y 2 1Y 5 2Y 9 2Y 2 2Y 3 7Y 3 4Y 2 1Y 5 2Y i aY 2 1Y 6 3Y 3 1Y 4 3Y 2 1Y 1 1Y",
   "2 3Y 2 3Y 3 3Y c 4Y 5 3Y 3 1Y 4 2Y 1 6Y 1 eY l 5Y d 1Y 3 1Y n 1Y g 2Y 9 1Y 3 1Y 4 7Y 2 1Y 3 1Y",
   "2 2Y 4 2Y a 7Y m 1Y 3 1Y n 1Y a 1Y 5 2Y 9 1Y 3 1Y 4 7Y 2 5Y 3 1Y 4 2Y a 1Y 3 cY d 1Y 3 1Y 1f",
   "1Y 3 1Y 6 4Y g 2Y q 1Y 3 1Y i 3Y o 1Y 9 1Y 1 2Y 7 3Y 1 4Y 6 1Y 1 1Y 8 6Y a 2Y 3 cY 1m 4Y t 11Y",
   "2 1Y 1 1Y 5 1Y o 1Y 1 1Y n 2Y 5 1Y 1 1Y 7 1Y a 2Y 4 wY 20 1Y 10 4Y 13 1Y 10 1Y f 1Y d 11Y 5i",
   "1Y 1 5Y 1 2Y ah 1Y 4 2Y 7 1Y 1 1Y 4 2Y 15 1Y 4 2Y x 1Y 4 2Y 7 1Y 1 1Y 4 2Y f 1Y 1l 1Y 4 2Y 1v",
   "2Y w 3Y q 6Y 2e 2Y 6 2Y hs 1Y s 3Y 2h 7Y m 9Y o 9Y k cY d 1Y 3 1Y 2 cY 2m 2Y a 6Y a 6Y e 1Y b",
   "6Y 2h 7Y 17 5Y 1y aY v 1Y c 4Y c 4Y 1 3Y 16 2Y 5 bY 18 4Y q 6Y b 3Y 1q 2Y 1t 1Y t 2Y b 6Y a 6Y",
   "e 2Y 1a 2Y c kY 25 1Y 4m 8Y 1o 3Y f 3Y 1q 5Y 17 2Y b 8Y 17 5Y eu 2Y 6 2Y 12 2Y 6 2Y 8 1Y 1 1Y",
   "1 1Y 1 1Y v 2Y 1h 1Y f 1Y e 2Y 6 1Y j 2Y 3 1Y 9 hY o 8Y 1b hY 2 2Y r 1Y d 3Y y eY x fY 3w 4Y",
   "ii mY b lY 1ec 2Y am 5Y 19 1Y 1 5Y 1 2Y 1k 7Y 2 eY o 9Y 7 1Y 7 1Y 7 1Y 7 1Y 7 1Y 7 1Y 7 1Y 7",
   "1Y 3i yY q 1Y 2h cY 5y qY c 5Y 1r 1Y 2e 2Y 2v 5Y 17 1Y 2m 1Y 2e aY 1b 1Y mlp 3Y 1j 9Y 9o kY 54",
   "8Y 65 kY 1o 3Y a 6Y 1k 8Y 1y 8Y c 6Y 38 bY u 3Y 26 1Y b 4Y x 1Y 1j 9Y e 2Y a 2Y 2v oY s aY 6",
   "2Y 6 2Y 6 9Y 7 1Y 7 1Y 1o 4Y 3i 2Y a 6Y 8mc cY n 4Y 1d 6isY a6 2Y 2y 12Y 7 cY 5 5Y q 1Y 5 1Y 1",
   "1Y 2 1Y 2 1Y i2 wY 16 6Y 1f 1Y j 1Y 4 4Y 5 1Y 3r 4Y 5a 3Y 6 2Y 6 2Y 6 2Y 3 3Y 7 1Y 7 dY 2 2Y c",
   "1Y q 1Y j 1Y 2 1Y f 2Y e yY 3f 5Y 3 4Y 19 3Y 2g 1Y d 3Y 1 1bY 1a 3mY t 3Y 1d fY s 4Y 10 9Y u",
   "5Y 17 5Y u 1Y 11 4Y e 16Y 4e 2Y a 6Y 10 4Y 10 4Y 14 8Y 1g bY c 1Y f 1Y 7 1Y 2 1Y b 1Y f 1Y 7",
   "1Y 2 3Y 1g cY 8n 9Y m aY 8 oY 6 1Y 16 1Y 9 1xY 6 2Y 1 1Y 18 1Y 2 3Y 1 2Y n 1Y 20 8Y 9 1cY j 1Y",
   "2 5Y x 3Y r 5Y r 12Y 1k 4Y k 2Y 1e 1Y 2 5Y 8 1Y 3 1Y t 2Y 3 4Y a 7Y 9 7Y 1s wY 13 4Y c 9Y 1i",
   "3Y t 2Y r 5Y q 7Y 4 cY 7 28Y 21 1jY 1f dY 1f 7Y 1a 8Y a 6Y 12 3Y t 8Y 2 5sY v 1Y 16 1Y 3 2Y 2",
   "gY 6 8Y 9 xY 1a 8Y 16 mY q 12Y s kY n 9Y 26 4Y 10 9Y 1q 1Y 5 dY p 7Y a 6Y 1h 1Y i 8Y 13 9Y 2o",
   "1Y k bY i 1Y 1b 1qY 7 1Y 1 1Y 4 1Y f 1Y b 6Y 1n 5Y a 6Y 4 1Y 8 2Y 2 2Y m 1Y 7 1Y 2 1Y 5 1Y a",
   "2Y 2 2Y 3 2Y 1 6Y 1 5Y 7 2Y 7 3Y 5 bY a 1Y 1 2Y 1 1Y 12 1Y a 1Y 1 2Y 1 1Y 4 1Y a 1Y 2 8Y 2 tY",
   "2k 1Y 5 uY 20 8Y a 4mY 1i 2Y 12 yY 1x bY a 6Y d jY 1m 6Y a 6Y k sY r 2Y f 4Y n 55Y 1o 2sY 2b",
   "cY 8 2Y 1 2Y 8 1Y 2 1Y u 1Y 2 2Y c 9Y a 1yY 8 2Y 1a 2Y b rY 20 8Y 2b dY 21 7Y a 2eY 8 2gY y eY",
   "a 6Y 9 1Y 19 1Y e aY t 3Y w 2Y m 1Y e 21Y 7 1Y 2 1Y 18 3Y 1 1Y 2 1Y 9 8Y a 6Y 6 1Y 2 1Y 11 1Y",
   "2 1Y 6 7Y a 6Y 18 4Y a 6uY p 7Y h 1Y 15 3Y t 2dY 1 fY 1e dY pn 2uY 33 1Y 5 bY 5g 218Y 2r dY ts",
   "gY m aY 32z 5Y g7 5a1Y 1m 1c6Y ft 7Y v 1Y a 4Y 29 1Y a 6Y u 2Y 6 aY 1y aY a 1Y 7 1Y l 5Y j c0Y",
   "1m 5iY 2j 5Y p 2Y p 18Y 23 4Y 1l 7Y h 1sY 5 bY 7 9Y 5p2 15Y w 2pY 37 6ppY 4 1Y 7 1Y 2 1Y 83 fY",
   "1 tY 3 2Y 1 eY 4 8Y b0 1s4Y 2z 5Y d 3Y 9 7Y a 2Y 4 31cY 71 3Y c4 6Y n fY h fY 1a 2Y n 9Y 38",
   "1oY 6u aY 13 2Y 22 8Y 34 lY 1y 3eY k cY k cY 2f 9Y p 3rY 2d 1Y 1z 1Y 2 2Y 1 2Y 2 2Y 4 1Y c 1Y",
   "1 1Y 7 1Y 1t 1Y 4 2Y 8 1Y 7 1Y s 1Y 4 1Y 5 1Y 1 3Y 7 1Y 9g 2Y 84 2Y ji fY 5 1Y f uoY v 6Y 6",
   "5xY 7 1Y h 2Y 7 1Y 2 1Y 5 5Y 1q xY 1 34Y 19 3Y e 2Y a 4Y 2 8wY v hY 1m 5Y 1 cwY 16 5yY 17 4Y 1",
   "5cY v 1Y m 8Y 2 68Y 7 1Y 4 1Y 2 1Y f 1Y 5h 2Y g 15Y 24 4Y a 4Y 2 ltY 1w 24Y 1p 5eY 4 1Y r 1Y 2",
   "1Y 1 2Y 1 1Y a 1Y 4 1Y 1 1Y 1 6Y 1 4Y 1 1Y 1 1Y 1 1Y 3 1Y 2 1Y 1 2Y 1 1Y 1 1Y 1 1Y 1 1Y 1 1Y 2",
   "1Y 1 2Y 4 1Y 7 1Y 4 1Y 4 1Y 1 1Y a 1Y h 5Y 3 1Y 5 1Y h 1gY 2 7iY 18 4Y 2s cY f 2Y f 1Y f 1Y 11",
   "aY 4u 1kY t dY 18 4Y 9 7Y 2 eY 6 4aY rd 3Y h 3Y d 3Y 62 6Y c 4Y 1 fY c 4Y 1k 8Y a 6Y 14 8Y u",
   "2Y c 4Y 2 eY 9 13Y 9k 8Y e 2Y d 3Y b 3Y 1l 1Y 1 4Y g 2Y c 4Y a 7Y 43 1Y 2v slY wyo wY 3dq 2Y",
   "4ge 2Y 5rl fY ha 1wiY f2 15uY 3t7 5Y 6ju f62uY 6o 47bkY"]

/-- The runs of unprintable characters. The lines are read once. -/
def unprintableRuns : Runs :=
  .parse unprintableText

end FlowAudit.Unicode
