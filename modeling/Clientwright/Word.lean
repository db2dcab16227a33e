/-!
# Machine words

Which integers fit a word of 64 bits. Numbers in documents are read without bound and then have to
fit the word that they are meant for.
-/

namespace Clientwright

/-- Does the integer fit a signed word of 64 bits? -/
def fitsInt64 (i : Int) : Bool := -0x8000000000000000 ≤ i && i < 0x8000000000000000

/-- Does the integer fit an unsigned word of 64 bits? -/
def fitsUInt64 (i : Int) : Bool := 0 ≤ i && i < 0x10000000000000000

end Clientwright
