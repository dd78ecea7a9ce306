import Keyspan.Number.Literal

/-!
# Sizes in bytes

Storage servers report sizes in whole mebibytes, estimates are in bytes. A `ByteSize` is never
negative. It is written in the greatest of four units that divides it evenly.

Results: `ofMebibytes_mebibytes`: whole mebibytes come back unchanged.
-/

namespace Keyspan

/-- The bytes of a mebibyte. -/
def bytesPerMebibyte : Nat := 1048576

/-- A size in bytes (`MemorySize`). -/
structure ByteSize where
  bytes : Nat
  deriving DecidableEq

namespace ByteSize

/-- A size of the given number of bytes (`of_bytes`). -/
def ofBytes (n : Int) : Except Failure ByteSize :=
  if n < 0 then .error .negativeSize else .ok ⟨n.toNat⟩

/-- A size of the given number of mebibytes (`of_mebi_bytes`). -/
def ofMebibytes (n : Int) : Except Failure ByteSize := ofBytes (n * bytesPerMebibyte)

/-- The whole mebibytes of a size (`get_mebi_bytes`). -/
def mebibytes (s : ByteSize) : Nat := s.bytes / bytesPerMebibyte

/-- The units above the byte, greatest first (`MemoryUnit`). -/
def units : List (String × Nat) :=
  [("gb", 1024 * 1024 * 1024), ("mb", 1024 * 1024), ("kb", 1024)]

/-- **A size, in the greatest unit that divides it evenly (`format_to_string`).** Zero is written in
bytes. -/
def text (s : ByteSize) : Except Failure String :=
  let (unit, factor) :=
    if s.bytes = 0 then ("bytes", 1)
    else (units.find? fun u => s.bytes % u.2 == 0).getD ("bytes", 1)
  (integerText (s.bytes / factor)).map (· ++ " " ++ unit)

def shown (s : ByteSize) : Except Failure String :=
  (integerText s.bytes).map fun n => "MemorySize(" ++ n ++ ")"

/-- A multiple of a unit, taken back in that unit. -/
theorem map_div_ofBytes (n k : Nat) (hk : 0 < k) :
    (ofBytes ((n : Int) * (k : Int))).map (fun s => s.bytes / k) = .ok n := by
  have hnn : ¬ ((n : Int) * (k : Int) < 0) := by
    have := Int.mul_nonneg (Int.natCast_nonneg n) (Int.natCast_nonneg k)
    omega
  have hval : ((n : Int) * (k : Int)).toNat = n * k := by
    rw [← Int.natCast_mul, Int.toNat_natCast]
  simp only [ofBytes, if_neg hnn, Except.map, hval, Nat.mul_div_cancel n hk]

/-- **Whole mebibytes come back unchanged.** -/
theorem ofMebibytes_mebibytes (n : Nat) : (ofMebibytes n).map mebibytes = .ok n :=
  map_div_ofBytes n bytesPerMebibyte (by decide)

end ByteSize

end Keyspan
