namespace DeltaFrames

abbrev Counter := UInt64

namespace Counter

def largest : Nat := UInt64.size - 1

def ofNat (count : Nat) : Counter :=
  UInt64.ofNatLT (min count largest) (Nat.lt_of_le_of_lt (Nat.min_le_right ..) (by decide))

def add (a b : Counter) : Counter := ofNat (a.toNat + b.toNat)

def next (counter : Counter) : Counter := counter.add 1

@[simp] theorem toNat_ofNat (count : Nat) : (ofNat count).toNat = min count largest :=
  UInt64.toNat_ofNatLT

@[simp] theorem toNat_add (a b : Counter) : (a.add b).toNat = min (a.toNat + b.toNat) largest :=
  toNat_ofNat _

@[simp] theorem toNat_next (counter : Counter) :
    counter.next.toNat = min (counter.toNat + 1) largest :=
  toNat_ofNat _

end Counter
end DeltaFrames
