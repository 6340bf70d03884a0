import Geminifs.Library.PosixPath
import Mathlib.Data.List.TakeWhile
import Mathlib.Data.Nat.Digits.Lemmas

/-!
# Numbers as Text

`std::to_string` of an unsigned number and `std::stoul` of a string. The reader
takes more than the writer gives it: leading white space and a sign are skipped,
what follows the digits is ignored, and a negative number is read as its
complement. Text without a digit, and a number that does not fit, are exceptions.

## Main definitions

* `text`: What is written between quotes.
* `decimal`: A number in decimal.
* `decimalInt`: The same, with a sign.
* `stoul`: What is read from a string, if no exception is thrown.

## Theorems

* `stoul_decimal`: A number that fits is read back.
* `decimal_inj`: Numbers that fit have different texts.
* `mem_decimal`: It has digits only.
* `decimalInt_inj`: The same, with a sign.
-/

namespace Geminifs

/-- The bytes of a text in ASCII. -/
def text (s : String) : Bytes := s.toList.map fun c => UInt8.ofNat c.toNat

/-- A number in decimal, the highest digit first. -/
def decimal (n : Nat) : Bytes :=
  if n = 0 then [48] else (Nat.digits 10 n).reverse.map (fun d => UInt8.ofNat (48 + d))

/-- `std::to_string` of a signed number. -/
def decimalInt : Int → Bytes
  | .ofNat n => decimal n
  | .negSucc n => 45 :: decimal (n + 1)

/-- `isspace` in the C locale. -/
def isSpace (b : UInt8) : Bool := b == 32 || (9 ≤ b && b ≤ 13)

/-- `isdigit`. -/
def isDigit (b : UInt8) : Bool := 48 ≤ b && b ≤ 57

/-- The number a string of digits stands for. -/
def digitsValue (bs : Bytes) : Nat := bs.foldl (fun acc b => 10 * acc + (b.toNat - 48)) 0

/-- A sign, and what is behind it. -/
def takeSign : Bytes → Bool × Bytes
  | [] => (false, [])
  | b :: bs => if b = 45 then (true, bs) else if b = 43 then (false, bs) else (false, b :: bs)

/-- `std::stoul`, with `none` for an exception. -/
def stoul (s : Bytes) : Option Nat :=
  let (negative, rest) := takeSign (s.dropWhile isSpace)
  let digits := rest.takeWhile isDigit
  if digits = [] then none
  else if 2 ^ 64 ≤ digitsValue digits then none
  -- The number is negated as an unsigned one.
  else some (if negative then (2 ^ 64 - digitsValue digits) % 2 ^ 64 else digitsValue digits)

theorem digit_toNat (d : Nat) (h : d < 10) : (UInt8.ofNat (48 + d)).toNat = 48 + d := by
  rw [UInt8.toNat_ofNat']
  omega

variable (n : Nat)

/-- The text of a number is made of the text of its digits. -/
theorem decimal_eq_map : ∃ ds : List Nat, ds ≠ [] ∧ (∀ d ∈ ds, d < 10) ∧
    Nat.ofDigits 10 ds = n ∧ decimal n = ds.reverse.map (fun d => UInt8.ofNat (48 + d)) := by
  by_cases hn : n = 0
  · refine ⟨[0], by simp, by simp, by simp [hn], ?_⟩
    rw [decimal, if_pos hn]
    rfl
  · refine ⟨Nat.digits 10 n, ?_, fun d hd => Nat.digits_lt_base (by omega) hd,
      Nat.ofDigits_digits 10 n, ?_⟩
    · rwa [Ne, Nat.digits_eq_nil_iff_eq_zero]
    · rw [decimal, if_neg hn]

/-- Every byte of the text is a digit. -/
theorem mem_decimal {n : Nat} {b : UInt8} (h : b ∈ decimal n) : isDigit b = true := by
  rcases decimal_eq_map n with ⟨ds, -, hds, -, heq⟩
  rw [heq, List.mem_map] at h
  rcases h with ⟨d, hd, rfl⟩
  have hlt := hds d (List.mem_reverse.mp hd)
  have htoNat := digit_toNat d hlt
  simp only [isDigit, Bool.and_eq_true, decide_eq_true_eq, UInt8.le_iff_toNat_le, htoNat]
  exact ⟨Nat.le_add_right 48 d, (by omega : 48 + d ≤ 57)⟩

theorem decimal_ne_nil : decimal n ≠ [] := by
  rcases decimal_eq_map n with ⟨ds, hne, -, -, heq⟩
  rw [heq]
  simpa using hne

/-- Reading the digits gives the number. -/
theorem digitsValue_decimal : digitsValue (decimal n) = n := by
  rcases decimal_eq_map n with ⟨ds, -, hds, hval, heq⟩
  -- Read from the highest digit on; the induction is on the lower ones.
  have hread : ∀ ds : List Nat, (∀ d ∈ ds, d < 10) →
      digitsValue (ds.reverse.map (fun d => UInt8.ofNat (48 + d))) = Nat.ofDigits 10 ds := by
    intro ds
    induction ds with
    | nil => intro _; rfl
    | cons d ds ih =>
      intro h
      have hd := digit_toNat d (h d List.mem_cons_self)
      have ih := ih (List.forall_mem_cons.mp h).2
      unfold digitsValue at ih ⊢
      rw [List.reverse_cons, List.map_append, List.foldl_append, ih, List.map_cons, List.map_nil,
        List.foldl_cons, List.foldl_nil, hd, Nat.ofDigits_cons]
      have hsub : 48 + d - 48 = d := Nat.add_sub_cancel_left 48 d
      rw [hsub, Nat.add_comm]
  rw [heq, hread ds hds, hval]

/-- The text starts with a digit, which is neither white space nor a sign. -/
theorem decimal_plain :
    (decimal n).dropWhile isSpace = decimal n ∧ takeSign (decimal n) = (false, decimal n) ∧
      (decimal n).takeWhile isDigit = decimal n := by
  refine ⟨?_, ?_, List.takeWhile_eq_self_iff.mpr (fun b hb => mem_decimal hb)⟩
  all_goals
    rcases hd : decimal n with _ | ⟨b, bs⟩
    · exact absurd hd (decimal_ne_nil n)
    have hb : isDigit b = true := mem_decimal (n := n) (hd ▸ List.mem_cons_self)
    simp only [isDigit, Bool.and_eq_true, decide_eq_true_eq] at hb
    have hlow : 48 ≤ b.toNat := hb.1
  · have hspace : isSpace b = false := by
      have h32 : (b == 32) = false := by
        rw [beq_eq_false_iff_ne]
        rintro rfl
        exact absurd hlow (by decide)
      have h13 : ¬ b ≤ 13 := by
        intro h
        have h13 : b.toNat ≤ 13 := h
        omega
      rw [isSpace, h32, decide_eq_false h13, Bool.and_false, Bool.or_false]
    rw [List.dropWhile_cons_of_neg (by rw [hspace]; simp)]
  · rw [takeSign, if_neg, if_neg]
    · rintro rfl
      exact absurd hlow (by decide)
    · rintro rfl
      exact absurd hlow (by decide)

/-- A number that fits is read back. -/
theorem stoul_decimal (h : n < 2 ^ 64) : stoul (decimal n) = some n := by
  rcases decimal_plain n with ⟨hspace, hsign, hdigits⟩
  unfold stoul
  rw [hspace, hsign]
  simp only
  rw [hdigits, if_neg (decimal_ne_nil n), digitsValue_decimal, if_neg (by omega)]
  rfl

theorem decimal_inj {m n : Nat} (h : decimal m = decimal n) : m = n := by
  rw [← digitsValue_decimal m, h, digitsValue_decimal n]

theorem mem_decimalInt {i : Int} {b : UInt8} (h : b ∈ decimalInt i) : b = 45 ∨ isDigit b = true := by
  cases i with
  | ofNat => exact .inr (mem_decimal h)
  | negSucc =>
    rcases List.mem_cons.mp h with h | h
    · exact .inl h
    · exact .inr (mem_decimal h)

/-- A number without a sign does not start with one. -/
theorem decimal_ne_minus (bs : Bytes) : decimal n ≠ 45 :: bs := by
  intro h
  have hminus : (45 : UInt8) ∈ decimal n := h ▸ List.mem_cons_self
  cases mem_decimal hminus

theorem decimalInt_inj {i j : Int} (h : decimalInt i = decimalInt j) : i = j := by
  cases i with
  | ofNat m =>
    cases j with
    | ofNat n => rw [decimal_inj (show decimal m = decimal n from h)]
    | negSucc => exact absurd h (decimal_ne_minus m _)
  | negSucc m =>
    cases j with
    | ofNat n => exact absurd h.symm (decimal_ne_minus n _)
    | negSucc n =>
      have htail : decimal (m + 1) = decimal (n + 1) := (List.cons.inj h).2
      have heq := decimal_inj htail
      rw [Nat.succ_inj.mp heq]

/-- A text of digits is the name of an ordinary file. -/
theorem decimal_ordinary : Ordinary (decimal n) ∧ slash ∉ decimal n ∧ 0 ∉ decimal n := by
  have hdot : (46 : UInt8) ∉ decimal n := fun h => absurd (mem_decimal h) (by decide)
  refine ⟨⟨decimal_ne_nil n, ?_, ?_⟩, fun h => absurd (mem_decimal h) (by decide),
    fun h => absurd (mem_decimal h) (by decide)⟩
  · intro h
    exact hdot (h ▸ List.mem_cons_self)
  · intro h
    exact hdot (h ▸ List.mem_cons_self)

end Geminifs
