import Mathlib.Data.Nat.Digits
import Mathlib.Tactic.IntervalCases

/-!
# RESP multi-bulk records

`aofshrink` appends each record to `aofbuf` as a RESP multi-bulk array: `*`, the number of
values, CRLF, then for each value `$`, its length in bytes, CRLF, the bytes, CRLF. The same
dozen lines stand in three places of `aofshrink` (the `set` records of the copy, the hook
records, the `shrinklog`); they are one definition here, `appendValues`. Values are byte
strings (`List UInt8`), as Go strings are, so they may be empty or hold CR, LF, `*` or `$`.

The reader is the spec's side: a multi-bulk parser that trusts the length prefixes. Every run
of records that `appendValues` writes reads back as the same records.
-/

namespace Tile38

/-! ### Lengths in decimal -/

/-- `strconv.FormatInt(int64(n), 10)` for a length `n`: its decimal digits, as bytes. -/
def formatInt (n : Nat) : List UInt8 := (Nat.toDigits 10 n).map fun c => c.toNat.toUInt8

lemma toDigitsCore_append (fuel n : Nat) (ds : List Char) :
    Nat.toDigitsCore 10 fuel n ds = Nat.toDigitsCore 10 fuel n [] ++ ds := by
  induction fuel generalizing n ds with
  | zero => rfl
  | succ fuel ih =>
    simp only [Nat.toDigitsCore]
    split_ifs
    · rfl
    · rw [ih _ (_ :: ds), ih _ [_]]; simp

lemma toDigitsCore_fuel : ∀ (f1 f2 n : Nat) (ds : List Char), n < f1 → n < f2 →
    Nat.toDigitsCore 10 f1 n ds = Nat.toDigitsCore 10 f2 n ds
  | 0, _, _, _, h, _ => absurd h (Nat.not_lt_zero _)
  | _, 0, _, _, _, h => absurd h (Nat.not_lt_zero _)
  | f1 + 1, f2 + 1, n, ds, h1, h2 => by
    simp only [Nat.toDigitsCore]
    split_ifs
    · rfl
    · exact toDigitsCore_fuel f1 f2 _ _ (by omega) (by omega)

lemma toDigits_eq (n : Nat) : Nat.toDigits 10 n =
    (if n < 10 then [] else Nat.toDigits 10 (n / 10)) ++ [Nat.digitChar (n % 10)] := by
  show Nat.toDigitsCore 10 (n + 1) n [] = _
  rw [Nat.toDigitsCore]
  split_ifs with h1 h2 h2
  · rfl
  · omega
  · omega
  · rw [toDigitsCore_append, toDigitsCore_fuel n (n / 10 + 1) _ _ (by omega) (by omega)]
    rfl

lemma digitChar_byte (d : Nat) (h : d < 10) :
    (Nat.digitChar d).toNat.toUInt8 = (48 + d).toUInt8 := by
  interval_cases d <;> rfl

lemma formatInt_eq (n : Nat) :
    formatInt n = (if n < 10 then [] else formatInt (n / 10)) ++ [(48 + n % 10).toUInt8] := by
  rw [formatInt, toDigits_eq, List.map_append, List.map_singleton,
    digitChar_byte _ (Nat.mod_lt _ (by decide))]
  split_ifs <;> rfl

/-- An ASCII decimal digit. -/
def isDigit (b : UInt8) : Bool := 48 ≤ b.toNat && b.toNat ≤ 57

/-- The value of a string of decimal digits, most significant first. -/
def digitsValue (ds : List UInt8) : Nat := ds.foldl (fun v b => 10 * v + (b.toNat - 48)) 0

lemma digitsValue_append_byte (ds : List UInt8) (b : UInt8) :
    digitsValue (ds ++ [b]) = 10 * digitsValue ds + (b.toNat - 48) := by
  simp [digitsValue, List.foldl_append]

/-- `formatInt n` is a non-empty string of digits whose value is `n`. -/
lemma formatInt_spec (n : Nat) :
    formatInt n ≠ [] ∧ (∀ b ∈ formatInt n, isDigit b) ∧ digitsValue (formatInt n) = n := by
  induction n using Nat.strong_induction_on with
  | _ n ih =>
    have hd : ((48 + n % 10).toUInt8).toNat = 48 + n % 10 := by
      show (48 + n % 10) % 256 = _; omega
    rw [formatInt_eq]
    refine ⟨by simp, ?_, ?_⟩
    · intro b hb
      rw [List.mem_append, List.mem_singleton] at hb
      rcases hb with hb | rfl
      · split_ifs at hb with h
        · cases hb
        · exact (ih _ (by omega)).2.1 b hb
      · simp only [isDigit, hd]; simp; omega
    · rw [digitsValue_append_byte, hd]
      split_ifs with h
      · simp [digitsValue]; omega
      · rw [(ih _ (by omega)).2.2]; omega

/-! ### Writing and reading records -/

/-- The bulk string of a value. -/
def encodeBulk (value : List UInt8) : List UInt8 :=
  36 :: formatInt value.length ++ [13, 10] ++ value ++ [13, 10]

/-- The multi-bulk array of a record. -/
def encodeArray (values : List (List UInt8)) : List UInt8 :=
  42 :: formatInt values.length ++ [13, 10] ++ values.flatMap encodeBulk

/-- "append the values to the aof buffer", as `aofshrink` writes it at each of its three
places. -/
def appendValues (aofbuf : List UInt8) (values : List (List UInt8)) : List UInt8 :=
  values.foldl
    (fun aofbuf value => aofbuf ++ [36] ++ formatInt value.length ++ [13, 10] ++ value ++ [13, 10])
    (aofbuf ++ [42] ++ formatInt values.length ++ [13, 10])

/-- The loop of `aofshrink` appends the multi-bulk array of the record. -/
theorem appendValues_eq (aofbuf : List UInt8) (values : List (List UInt8)) :
    appendValues aofbuf values = aofbuf ++ encodeArray values := by
  have h : ∀ (vs : List (List UInt8)) (buf : List UInt8), vs.foldl (fun aofbuf value =>
      aofbuf ++ [36] ++ formatInt value.length ++ [13, 10] ++ value ++ [13, 10]) buf =
      buf ++ vs.flatMap encodeBulk := by
    intro vs
    induction vs with
    | nil => simp
    | cons v vs ih => intro buf; rw [List.foldl_cons, ih, List.flatMap_cons]; simp [encodeBulk]
  rw [appendValues, h, encodeArray]
  simp

example : encodeArray [[], [13, 10]] =
    [42, 50, 13, 10, 36, 48, 13, 10, 13, 10, 36, 50, 13, 10, 13, 10, 13, 10] := by decide

/-- A length line: decimal digits, at least one, then CRLF. -/
def readNumber (l : List UInt8) : Option (Nat × List UInt8) :=
  let ds := l.takeWhile isDigit
  if ds ≠ [] ∧ (l.drop ds.length).take 2 = [13, 10] then
    some (digitsValue ds, l.drop (ds.length + 2))
  else none

/-- A bulk string: `$`, a length line, that many bytes whatever they are, CRLF. -/
def parseBulk : List UInt8 → Option (List UInt8 × List UInt8)
  | b :: l =>
    if b = 36 then
      (readNumber l).bind fun (n, l) =>
        if n ≤ l.length ∧ (l.drop n).take 2 = [13, 10] then some (l.take n, l.drop (n + 2))
        else none
    else none
  | [] => none

def parseBulks : Nat → List UInt8 → Option (List (List UInt8) × List UInt8)
  | 0, l => some ([], l)
  | n + 1, l => (parseBulk l).bind fun (v, l) => (parseBulks n l).map fun (vs, l) => (v :: vs, l)

/-- A multi-bulk array: `*`, a length line, that many bulk strings. -/
def parseArray : List UInt8 → Option (List (List UInt8) × List UInt8)
  | b :: l => if b = 42 then (readNumber l).bind fun (n, l) => parseBulks n l else none
  | [] => none

def parseArrays : Nat → List UInt8 → Option (List (List (List UInt8)))
  | _, [] => some []
  | 0, _ :: _ => none
  | fuel + 1, l => (parseArray l).bind fun (r, l) => (parseArrays fuel l).map (r :: ·)

/-- A file of multi-bulk arrays, read to its end. Each array takes a byte at least, so the
length of the file is fuel enough. -/
def parseMultiBulk (l : List UInt8) : Option (List (List (List UInt8))) := parseArrays l.length l

lemma readNumber_formatInt (n : Nat) (rest : List UInt8) :
    readNumber (formatInt n ++ 13 :: 10 :: rest) = some (n, rest) := by
  obtain ⟨hne, hdig, hval⟩ := formatInt_spec n
  have ht : (formatInt n ++ 13 :: 10 :: rest).takeWhile isDigit = formatInt n := by
    rw [List.takeWhile_append_of_pos hdig,
      show (13 :: 10 :: rest : List UInt8).takeWhile isDigit = [] from rfl, List.append_nil]
  simp only [readNumber, ht, List.drop_left, hval]
  rw [if_pos ⟨hne, rfl⟩, ← List.drop_drop, List.drop_left]
  rfl

lemma parseBulk_encodeBulk (value rest : List UInt8) :
    parseBulk (encodeBulk value ++ rest) = some (value, rest) := by
  simp [encodeBulk, parseBulk, readNumber_formatInt]

lemma parseBulks_encodeBulk (rest : List UInt8) :
    ∀ values : List (List UInt8),
      parseBulks values.length (values.flatMap encodeBulk ++ rest) = some (values, rest)
  | [] => rfl
  | v :: vs => by
    rw [List.flatMap_cons, List.append_assoc, List.length_cons, parseBulks,
      parseBulk_encodeBulk]
    simp [parseBulks_encodeBulk rest vs]

lemma parseArray_encodeArray (values : List (List UInt8)) (rest : List UInt8) :
    parseArray (encodeArray values ++ rest) = some (values, rest) := by
  simp [encodeArray, parseArray, readNumber_formatInt, parseBulks_encodeBulk]

lemma parseArrays_encodeArray : ∀ (records : List (List (List UInt8))) (fuel : Nat),
    records.length ≤ fuel → parseArrays fuel (records.flatMap encodeArray) = some records
  | [], fuel, _ => by cases fuel <;> rfl
  | r :: rs, fuel + 1, h => by
    rw [List.flatMap_cons, parseArrays.eq_3 _ _ (by simp [encodeArray]), parseArray_encodeArray]
    simp [parseArrays_encodeArray rs fuel (by simpa using h)]

/-- Reading back the multi-bulk arrays of any records, one after another, gives the records. -/
theorem parseMultiBulk_encodeArray (records : List (List (List UInt8))) :
    parseMultiBulk (records.flatMap encodeArray) = some records := by
  refine parseArrays_encodeArray records _ ?_
  induction records with
  | nil => simp
  | cons r rs ih =>
    have : 0 < (encodeArray r).length := by simp [encodeArray]
    rw [List.flatMap_cons, List.length_append, List.length_cons]
    omega

end Tile38
