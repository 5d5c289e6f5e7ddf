namespace FeedBridge

def twoTo (n : Nat) : Nat := Nat.pow 2 n

def tenTo (n : Nat) : Nat := Nat.pow 10 n

def fitsInt64 (n : Int) : Bool := -(twoTo 63 : Int) ≤ n && n < twoTo 63

end FeedBridge
