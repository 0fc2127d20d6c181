import LexBridge.Proofs.Wire.Row

/-!
# Payloads piece by piece

The body of a payload is read in pairs, so it may be read in two pieces if the first one is even.
What the characters are does not matter for this, except that the first piece must not get longer
when it is put in lower case.

## Main results

* `Payload.length_flatMap_lower`: lower case takes as many places.
* `Payload.pairs_append`: pairs behind an even number of characters.
* `Payload.bytes_append`: the bytes of a body in two pieces, each between wrappers of its own.
-/

namespace LexBridge.Payload

theorem length_lower {c : CodePoint} (h : c ≠ 0x130) : (lower c).length = 1 := by
  have hval : c.val ≠ 0x130 := fun hc => h (Fin.ext hc)
  rw [lower, if_neg hval]
  split <;> rfl

theorem length_flatMap_lower {body : Text} (h : 0x130 ∉ body) :
    (body.flatMap lower).length = body.length := by
  induction body with
  | nil => rfl
  | cons c body ih =>
    obtain ⟨hc, hbody⟩ := not_or.mp (mt List.mem_cons.mpr h)
    rw [List.flatMap_cons, List.length_append, length_lower (Ne.symm hc), ih hbody,
      List.length_cons, Nat.add_comm]

/-- **Pairs do not reach over an even number of characters**, whatever these are. -/
theorem pairs_append : ∀ {a : Text}, a.length % 2 = 0 → ∀ b, pairs (a ++ b) = pairs a ++ pairs b
  | [], _, _ => rfl
  | [_], h, _ => absurd h (by simp)
  | high :: low :: a, h, b => by
    have ha : a.length % 2 = 0 := by
      rw [List.length_cons, List.length_cons] at h
      omega
    rw [List.cons_append, List.cons_append, pairs, pairs, pairs_append ha b]
    split <;> rfl

/-- **A body may be read in two pieces.** The bytes of a payload are those of two payloads between
which its body is divided after an even number of characters. -/
theorem bytes_append {a : Text} (heven : a.length % 2 = 0) (hdotted : 0x130 ∉ a) (b : Text)
    (first last leftFirst leftLast rightFirst rightLast : CodePoint) :
    Payload.bytes (first :: (a ++ b ++ [last])) =
      Payload.bytes (leftFirst :: (a ++ [leftLast])) ++
        Payload.bytes (rightFirst :: (b ++ [rightLast])) := by
  rw [bytes_wrapped, bytes_wrapped, bytes_wrapped, List.flatMap_append,
    pairs_append (by rw [length_flatMap_lower hdotted, heven])]

end LexBridge.Payload
