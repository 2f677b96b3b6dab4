import FlowAudit.Unicode.Runs

/-!
# Bidirectional classes

The bidirectional class of every character, by its short name. `ZZ` stands for all classes that no
domain name may hold.
-/

namespace FlowAudit.Unicode

/-- The runs of the bidirectional classes. -/
def bidiClassText : List String :=
  ["9BN 5ZZ eBN 5ZZ 2ON 3ET 5ON 1ES 1CS 1ES 2CS aEN 1CS 6ON qL 6ON qL 4ON 6BN 1ZZ qBN 1CS 1ON 4ET",
   "4ON 1L 2ON 1BN 2ON 2ET 2EN 1ON 1L 3ON 1EN 1L 5ON nL 1ON vL 1ON chL 2ON 7L eON 2L eON 5L 9ON 1L",
   "hON 34NSM 4L 2ON 8L 1ON 5L 2ON 1L 1ON 32L 1ON 3wL 7NSM 74L 1ON 2L 2ON 1ET 1R 19NSM 1R 1NSM 1R",
   "2NSM 1R 2NSM 1R 1NSM 1kR 6AN 2ON 1AL 2ET 1AL 1CS 1AL 2ON bNSM 1cAL lNSM aAN 1ET 2AN 3AL 1NSM",
   "2tAL 7NSM 1AN 1ON 6NSM 2AL 2NSM 1ON 4NSM 2AL aEN nAL 1NSM uAL rNSM 2jAL bNSM fAL 17R 9NSM 2R",
   "4ON 3R 1NSM oR 4NSM 1R 9NSM 1R 3NSM 1R 5NSM 17R 3NSM 4R 1cAL 2AN 6AL 8NSM 16AL oNSM 1AN wNSM",
   "1jL 1NSM 1L 1NSM 4L 8NSM 4L 1NSM 3L 7NSM aL 2NSM tL 1NSM 1mL 1NSM 4L 4NSM 8L 1NSM kL 2NSM eL",
   "2ET 7L 1ET 2L 1NSM 2L 2NSM 1lL 1NSM 4L 2NSM 4L 2NSM 2L 3NSM 3L 1NSM uL 2NSM 3L 1NSM bL 2NSM",
   "1lL 1NSM 4L 5NSM 1L 2NSM 4L 1NSM kL 2NSM dL 1ET 8L 6NSM 1L 1NSM 1mL 1NSM 2L 1NSM 1L 4NSM 8L",
   "1NSM 7L 2NSM bL 2NSM uL 1NSM 1pL 1NSM cL 1NSM 11L 6ON 1ET 1ON 5L 1NSM 3L 1NSM 1jL 1NSM 1L 3NSM",
   "5L 3NSM 1L 4NSM 7L 2NSM bL 2NSM kL 7ON 2L 1NSM 1mL 1NSM fL 2NSM kL 2NSM sL 2NSM 1lL 2NSM 4L",
   "4NSM 8L 1NSM kL 2NSM tL 1NSM 20L 1NSM 7L 3NSM 1L 1NSM 2iL 1NSM 2L 7NSM 4L 1ET 7L 8NSM 2qL 1NSM",
   "2L 9NSM bL 7NSM 21L 2NSM rL 1NSM 1L 1NSM 1L 1NSM 4ON 1fL eNSM 1L 5NSM 1L 2NSM 5L bNSM 1L 10NSM",
   "9L 1NSM 2uL 4NSM 1L 6NSM 1L 2NSM 2L 2NSM pL 2NSM 4L 3NSM gL 4NSM dL 1NSM 2L 2NSM 6L 1NSM fL",
   "1NSM jjL 3NSM 1cL aON 2uL 1ON hrL 1ZZ qL 2ON 39L 3NSM tL 2NSM uL 2NSM uL 2NSM 1sL 2NSM 1L 7NSM",
   "8L 1NSM 2L bNSM 7L 1ET 1L 1NSM iL aON 6L bON 3NSM 1BN 1NSM 39L 2NSM yL 1NSM 3aL 3NSM 4L 2NSM",
   "9L 1NSM 6L 3NSM 4L 1ON 3L 2ON 48L yON nL 2NSM 2L 1NSM 1mL 1NSM 1L 7NSM 1L 1NSM 1L 1NSM 2L 8NSM",
   "6L aNSM 2L 1NSM 1cL vNSM 1dL 4NSM 1cL 1NSM 1L 5NSM 1L 1NSM 5L 1NSM 14L 9NSM cL 2NSM wL 4NSM 2L",
   "2NSM 1L 3NSM 1kL 1NSM 1L 2NSM 3L 1NSM 1L 3NSM 1mL 8NSM 2L 2NSM 48L 3NSM 1L dNSM 1L 7NSM 4L",
   "1NSM 6L 1NSM 3L 2NSM 5iL 1sNSM cdL 1ON 1L 3ON bL 3ON dL 3ON dL 3ON dL 2ON 1L bZZ 3BN 1L 1R oON",
   "7ZZ 1CS 5ET fON 1CS qON 1ZZ 6BN 4ZZ 6BN 1EN 3L 6EN 2ES 3ON 1L aEN 2ES 3ON hL 1cET xNSM fL 2ON",
   "1L 4ON 1L 2ON aL 1ON 1L 3ON 5L 6ON 1L 1ON 1L 1ON 1L 1ON 4L 1ET bL 2ON 4L 5ON 5L 4ON 2L gON 15L",
   "3ON 4L 3mON 1ES 1ET 82ON 1xL qON 1L 41ON pL bON lL 14ON kEN 26L ciON 1L 9fON 74L hgON 2L wON",
   "1L 2xON 6dL 6ON 4L 3NSM 7L 7ON 3jL 1NSM 2oL wNSM 2mON yL qON 1L 2hON cL 5yON qL cON 4L 1ZZ 4ON",
   "3L pON 9L 4NSM 2L 1ON 5L 2ON 5L 3ON 2hL 2NSM 2ON 3L 1ON 2iL 1ON 5gL 10ON 1lL 2ON 1dL gON sL",
   "3ON 1eL fON cL 4ON 4nL 4ON 2rL 2ON vL 1ON 534L 1sON h3kL 1jON 92L 3ON 2nL 4NSM 1ON aNSM 2ON uL",
   "2NSM 28L 2NSM eL yON 2uL 1ON 3dL 1NSM 3L 1NSM 4L 1NSM pL 2NSM 1L 4ON 1NSM bL 2ET 1mL 4ON 24L",
   "2NSM qL iNSM dL 1NSM 12L 8NSM pL bNSM 1aL 3NSM 1cL 1NSM 2L 4NSM 2L 2NSM 13L 1NSM 1vL 6NSM 2L",
   "2NSM 2L 2NSM cL 1NSM 8L 1NSM 1bL 1NSM 1fL 1NSM 1L 3NSM 2L 2NSM 5L 2NSM 1L 1NSM 16L 2NSM 8L",
   "1NSM 37L 2ON 3dL 1NSM 2L 1NSM 4L 1NSM fn3L 1R 1NSM aR 1ES 12R dqAL iON 3jAL 1ON wBN dAL 3ON",
   "gNSM aON 6L gNSM wON 1CS 1ON 1CS 1L 1ON 1CS 9ON 1ET 2ON 2ES 3ON 1L 1ON 2ET 1ON 4L 3zAL 1BN 1L",
   "2ON 3ET 5ON 1ES 1CS 1ES 2CS aEN 1CS 6ON qL 6ON qL bON 3eL 2ET 3ON 2ET 1L 7ON 1L 9BN 5ON 2BN",
   "75L 1ON 1qL 25ON 3L dON 3L 1ON 2kL 1NSM 6aL 1NSM rEN 3eL 5NSM w5L 7zR 1ON 69R 3NSM 1R 2NSM 5R",
   "4NSM 14R 3NSM 4R 1NSM 4lR 2NSM 2aR 7ON cgR 10AL 4NSM 8AL aAN 6AL 80R vAN 18R 2NSM jR 1pAL 3NSM",
   "1cR mAL bNSM vAL iR 4NSM 3eR 1L 1NSM 1iL fNSM bL kON aL 1NSM 2L 2NSM aL 3NSM 1dL 4NSM 2L 2NSM",
   "7L 1NSM 1pL 3NSM 10L 5NSM 1L 8NSM 1qL 1NSM cL 2NSM 1gL 9NSM aL 4NSM 2L 1NSM 2nL 3NSM 2L 1NSM",
   "1L 2NSM 6L 1NSM 2L 1NSM 4dL 1NSM 3L 8NSM lL 2NSM 1lL 2NSM 3L 1NSM 11L 7NSM 3L 5NSM 5fL 8NSM 2L",
   "3NSM 1L 1NSM nL 1NSM 2cL 6NSM 1L 1NSM 4L 2NSM 1L 2NSM 6mL 4NSM 6L 2NSM 1L 2NSM rL 2NSM 2dL",
   "8NSM 2L 1NSM 1L 2NSM vL dON 1qL 1NSM 1L 1NSM 2L 6NSM 1L 1NSM 2tL 3NSM 2L 4NSM 1L 5NSM 77L 9NSM",
   "1L 2NSM 74L 2NSM 1L 1NSM 4L 1NSM 40L 4NSM 2L 2NSM 4L 1NSM wL 6NSM 2L 2NSM 14L 6NSM 2L 4NSM 8L",
   "1NSM 9L 6NSM 2L 3NSM 1aL dNSM 1L 2NSM baL 7NSM 1L 6NSM 2cL mNSM 2L 7NSM 1L 2NSM 1L 2NSM 3eL",
   "6NSM 3L 1NSM 1L 2NSM 1L 7NSM 1L 1NSM 20L 2NSM 3L 1NSM 1L 1NSM 9nL 2NSM bL 2NSM 1gL 5NSM 5L",
   "1NSM 1L 1NSM 42L 8ON 4ET hON 40eL 1NSM 6L fNSM asaL 5NSM 1nL 7NSM t4L 1NSM 1rL 4NSM 27L 1ON 1L",
   "1NSM f5kL 2NSM 1L 4BN 3mkL 1aNSM 2L nNSM f4L 3NSM 9L 8BN 8NSM 2L 7NSM uL 4NSM 1nL 2ON lL 1uON",
   "3NSM 1ON 56L 2fON p0L 1ON 1lL 1ON 1lL 1ON 1lL 1ON 1lL 1ON aL 1eEN e8L 1jNSM 4L 1eNSM 8L 1NSM",
   "eL 1NSM mL 5NSM 1L fNSM 11sL 7NSM 1L hNSM 2L 7NSM 1L 2NSM 1L 5NSM 2sL 1NSM 4gL 7NSM afL 1NSM",
   "1pL 4NSM fL 1ET doL 4NSM lsL 5sR 7NSM 31R 7NSM mdR 28AL 1sR 28AL 4wR 6oAL 2ON eAL 74R 18ON 4L",
   "2sON cL fON 2L fON 1L fON 1L 11ON aL bEN 5ON vL 1ON 1mL 6ON 1pL 1ON 4yL 6ON 4aL rcON 4L hON 3L",
   "dON 3L 3bON 4L 2nON 6L cON 4L 1ON fL cON 4L 1kON 8L aON 6L 14ON 8L uON 2L 2ON 26L 9gON cL eON",
   "2L dON 3L 9ON 7L 1aON 1L 7ON 8L eON 4L 9ON 7L 9ON 7L 43ON 1L 1jON 11L aEN skL 2BN 1ekeL 2BN",
   "1ekeL 2BN 1ekeL 2BN 1ekeL 2BN 1ekeL 2BN 1ekeL 2BN 1ekeL 2BN 1ekeL 2BN 1ekeL 2BN 1ekeL 2BN",
   "1ekeL 2BN 1ekeL 76BN 6oNSM 2s0BN 1bemL 2BN 1ekeL 2BN 1ekeL 2BN"]

/-- The runs of the bidirectional classes. The lines are read once. -/
def bidiClassRuns : Runs :=
  .parse bidiClassText

end FlowAudit.Unicode
