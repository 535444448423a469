import Infiltration.Digest.Blake3
import Mathlib.Algebra.Order.Group.Nat
import Mathlib.Data.List.Flatten

/-! # Digests and collisions

A digest in hexadecimal is the digest itself, written differently. That byte strings with one digest
are equal cannot be proved, since there are more byte strings than digests: two of them may
collide. -/

namespace Infiltration

/-- A number is told by its bytes. -/
theorem eq_of_bytes {count n m : ℕ} (hn : n < 256 ^ count) (hm : m < 256 ^ count)
    (same : ∀ place < count, n / 256 ^ place % 256 = m / 256 ^ place % 256) : n = m := by
  have hmod : n % 256 ^ count = m % 256 ^ count := by
    clear hn hm
    induction count with
    | zero => rw [pow_zero, Nat.mod_one, Nat.mod_one]
    | succ count ih =>
        rw [Nat.mod_pow_succ, Nat.mod_pow_succ, same count (Nat.lt_succ_self count),
          ih fun place hplace => same place (Nat.lt_succ_of_lt hplace)]
  rwa [Nat.mod_eq_of_lt hn, Nat.mod_eq_of_lt hm] at hmod

namespace Blake3

theorem digitChar_inj :
    ∀ n < 16, ∀ m < 16, Nat.digitChar n = Nat.digitChar m → n = m := by
  decide

theorem hexByte_inj {byte other : UInt32} (h : hexByte byte = hexByte other) :
    byte.toNat % 256 = other.toNat % 256 := by
  obtain ⟨hhigh, hlow⟩ := List.cons.inj h
  have hhigh := digitChar_inj _ (Nat.mod_lt _ (by decide)) _ (Nat.mod_lt _ (by decide)) hhigh
  have hlow := digitChar_inj _ (Nat.mod_lt _ (by decide)) _ (Nat.mod_lt _ (by decide))
    (List.cons.inj hlow).1
  omega

theorem hexWord_inj {word other : UInt32} (h : hexWord word = hexWord other) : word = other := by
  simp only [hexWord, List.append_assoc] at h
  obtain ⟨hfirst, h⟩ := List.append_inj h rfl
  obtain ⟨hsecond, h⟩ := List.append_inj h rfl
  obtain ⟨hthird, hfourth⟩ := List.append_inj h rfl
  apply UInt32.toNat_inj.mp
  apply @eq_of_bytes 4 _ _ word.toNat_lt other.toNat_lt
  intro place hplace
  match place with
  | 0 => simpa using hexByte_inj hfirst
  | 1 => simpa [Nat.shiftRight_eq_div_pow] using hexByte_inj hsecond
  | 2 => simpa [Nat.shiftRight_eq_div_pow] using hexByte_inj hthird
  | 3 => simpa [Nat.shiftRight_eq_div_pow] using hexByte_inj hfourth

theorem digest_of_hex {bytes other : ByteArray} (h : hex bytes = hex other) :
    digest bytes = digest other := by
  have hlengths (chain : Chain) : chain.toList.map (fun word => (hexWord word).length) =
      List.replicate 8 8 := by
    simp [length_hexWord, List.map_const']
  have hwords : (digest bytes).toList.map hexWord = (digest other).toList.map hexWord := by
    apply List.eq_iff_flatten_eq.mpr
    refine ⟨String.ofList_inj.mp h, ?_⟩
    rw [List.map_map, List.map_map]
    exact (hlengths _).trans (hlengths _).symm
  exact Vector.toList_inj.mp ((List.map_inj_right fun _ _ => hexWord_inj).mp hwords)

/-- Two of the byte strings are different and have the same digest. -/
def Collision (hashed : List ByteArray) : Prop :=
  ∃ bytes ∈ hashed, ∃ other ∈ hashed, bytes ≠ other ∧ digest bytes = digest other

theorem not_collision_singleton (bytes : ByteArray) : ¬ Collision [bytes] := by
  rintro ⟨_, hbytes, _, hother, apart, -⟩
  rw [List.mem_singleton.mp hbytes, List.mem_singleton.mp hother] at apart
  exact apart rfl

/-- Byte strings with one digest are equal, if none collide. -/
theorem eq_of_hex {hashed : List ByteArray} (safe : ¬ Collision hashed) {bytes other : ByteArray}
    (hbytes : bytes ∈ hashed) (hother : other ∈ hashed) (h : hex bytes = hex other) :
    bytes = other := by
  by_contra hne
  exact safe ⟨bytes, hbytes, other, hother, hne, digest_of_hex h⟩

theorem eq_of_map_hex {hashed texts others : List ByteArray} (safe : ¬ Collision hashed)
    (htexts : texts ⊆ hashed) (hothers : others ⊆ hashed) (h : texts.map hex = others.map hex) :
    texts = others := by
  induction texts generalizing others with
  | nil => exact (List.map_eq_nil_iff.mp h.symm).symm
  | cons text texts ih =>
      cases others with
      | nil => simp at h
      | cons other others =>
          obtain ⟨hhead, htail⟩ := List.cons.inj h
          obtain ⟨htext, htexts⟩ := List.cons_subset.mp htexts
          obtain ⟨hother, hothers⟩ := List.cons_subset.mp hothers
          rw [eq_of_hex safe htext hother hhead, ih htexts hothers htail]

end Blake3

end Infiltration
