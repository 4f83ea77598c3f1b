namespace OutboxRelay

/-- The greatest value of an integer column. -/
def maxInt32 : Int := 2147483647

def minInt32 : Int := -2147483648

/-- The greatest value of a bigint column. -/
def maxInt64 : Int := 9223372036854775807

def minInt64 : Int := -9223372036854775808

def fitsInt32 (n : Int) : Bool := minInt32 ≤ n && n ≤ maxInt32

def fitsInt64 (n : Int) : Bool := minInt64 ≤ n && n ≤ maxInt64

end OutboxRelay
