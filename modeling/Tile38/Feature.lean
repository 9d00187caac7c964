import Mathlib

/-!
# Feature id and properties

A GeoJSON `Feature` keeps the raw text of its `id` and `properties` members in one string,
`idprops`. `makeCompositeRaw` writes the length of the id first: in one byte when the id has
fewer than 255 bytes, else as the byte 255 and the length in eight bytes, little endian.
`getRaw` reads the two members back. `stripWhitespace` is not under src and is a parameter.
-/

namespace Tile38

/-- A Go `string`: its bytes, fewer than `2^63` of them since `len` is an `int`. -/
structure GoString where
  bytes : List UInt8
  length_lt : bytes.length < 2 ^ 63

/-- `binary.LittleEndian.PutUint64` on `k` bytes: the low `k` bytes of `n`, least significant
first. -/
def leBytes : Nat → Nat → List UInt8
  | 0, _ => []
  | k + 1, n => UInt8.ofNat n :: leBytes k (n / 256)

/-- `binary.LittleEndian.Uint64`. -/
def leValue (bs : List UInt8) : Nat :=
  bs.foldr (fun b acc => b.toNat + 256 * acc) 0

/-- `makeCompositeRaw`: the stripped id and properties behind the length of the id. -/
def makeCompositeRaw (stripWhitespace : GoString → GoString) (idRaw propsRaw : GoString) :
    List UInt8 :=
  let idRaw := (stripWhitespace idRaw).bytes
  let propsRaw := (stripWhitespace propsRaw).bytes
  if idRaw.length = 0 ∧ propsRaw.length = 0 then []
  else if idRaw.length > 0xFF - 1 then 0xFF :: leBytes 8 idRaw.length ++ idRaw ++ propsRaw
  else UInt8.ofNat idRaw.length :: idRaw ++ propsRaw

/-- `Feature.getRaw`: the raw id and properties of `idprops`; `none` is the panic of a slice out
of range. The offset `int(Uint64(...)) + 9` is computed in `Nat`: on a string shorter than
`2^63` bytes, it lies in the string exactly when the `int` does. -/
def getRaw (idprops : List UInt8) : Option (List UInt8 × List UInt8) :=
  match idprops with
  | [] => some ([], [])
  | b :: rest =>
    if b = 255 then
      if 9 ≤ idprops.length then
        let lnp := leValue (rest.take 8) + 9
        if lnp ≤ idprops.length then some ((idprops.take lnp).drop 9, idprops.drop lnp)
        else none
      else none
    else
      let lnp := b.toNat + 1
      if lnp ≤ idprops.length then some ((idprops.take lnp).drop 1, idprops.drop lnp) else none

lemma UInt8.toNat_ofNat_mod (n : Nat) : (UInt8.ofNat n).toNat = n % 256 := rfl

@[simp] lemma length_leBytes : ∀ k n, (leBytes k n).length = k
  | 0, _ => rfl
  | k + 1, n => by simp [leBytes, length_leBytes k]

lemma leValue_leBytes : ∀ k n, leValue (leBytes k n) = n % 256 ^ k
  | 0, n => (Nat.mod_one n).symm
  | k + 1, n => by
    have ih := leValue_leBytes k (n / 256)
    simp only [leValue, leBytes, List.foldr_cons] at ih ⊢
    rw [ih, UInt8.toNat_ofNat_mod, pow_succ', Nat.mod_mul]

lemma getRaw_long (id props : List UInt8) (hl : 0xFF - 1 < id.length) (hid : id.length < 2 ^ 63) :
    getRaw (0xFF :: leBytes 8 id.length ++ id ++ props) = some (id, props) := by
  have h8 : (leBytes 8 id.length ++ (id ++ props)).take 8 = leBytes 8 id.length :=
    List.take_left' (length_leBytes 8 _)
  have hv : leValue (leBytes 8 id.length) = id.length :=
    (leValue_leBytes 8 _).trans (Nat.mod_eq_of_lt (by omega))
  simp only [getRaw, List.cons_append, List.append_assoc, if_true, List.length_cons,
    List.length_append, length_leBytes, h8, hv]
  rw [if_pos (by omega), if_pos (by omega)]
  have hd : id.length + 9 = (leBytes 8 id.length).length + id.length + 1 := by simp; omega
  simp only [hd, List.take_succ_cons, List.drop_succ_cons, List.take_append_eq_append_take,
    List.drop_append, List.take_left']
  simp

lemma getRaw_short (id props : List UInt8) (hl : ¬0xFF - 1 < id.length) :
    getRaw (UInt8.ofNat id.length :: id ++ props) = some (id, props) := by
  have hb : UInt8.ofNat id.length ≠ 255 := fun h => by
    have := congrArg UInt8.toNat h
    rw [UInt8.toNat_ofNat_mod] at this
    change id.length % 256 = 255 at this
    omega
  simp only [getRaw, List.cons_append, hb, if_false, UInt8.toNat_ofNat_mod, List.length_cons,
    List.length_append]
  rw [if_pos (by omega)]
  simp [Nat.mod_eq_of_lt (show id.length < 256 by omega), List.take_add]

/-- `getRaw` reads back what `makeCompositeRaw` wrote: the id and the properties as
`stripWhitespace` left them, for ids of any length, on both sides of the switch to the long
form at 255 bytes. -/
theorem getRaw_makeCompositeRaw (stripWhitespace : GoString → GoString)
    (idRaw propsRaw : GoString) :
    getRaw (makeCompositeRaw stripWhitespace idRaw propsRaw) =
      some ((stripWhitespace idRaw).bytes, (stripWhitespace propsRaw).bytes) := by
  unfold makeCompositeRaw
  generalize stripWhitespace idRaw = I
  generalize stripWhitespace propsRaw = P
  obtain ⟨id, hid⟩ := I
  obtain ⟨props, -⟩ := P
  dsimp only
  split_ifs with h0 hl
  · rw [List.length_eq_zero.1 h0.1, List.length_eq_zero.1 h0.2]
    rfl
  · exact getRaw_long id props hl hid
  · exact getRaw_short id props hl

end Tile38
