/-
# Transparency — nobody can tell how the bytes were held back

Two journals that were offered the same writes carry the same stream, however
large their buffers are, whatever bounds they keep, and wherever the one or
the other was flushed, forced or read from on the way.  Their boundaries may
lie at different places, but where the stream ends, what every read comes to,
and what is left on the medium once both are shut down can all be told from
the stream.

The two media need not even be of one kind.
-/
import WriteBack.Proofs.FaultFree

namespace WriteBack

open Faithful (contents Undisturbed Addressable)

namespace Journal

/-! ## What a journal with a buffer carries -/

section Offers

variable {β : Type} [Medium β] [Faithful β]

theorem Reached.carries_offered {base : β} (hbase : Undisturbed base) {history : List Report}
    {j : Live β} (h : Reached base history (live j)) {buffer : Buffer}
    (hbuffer : j.buffer = .ok buffer) :
    j.Carries (contents base ++ (offered history).flatten) := by
  have hcarries : j.Carries (contents base ++ accepted history) := h.carries hbase
  rw [h.accepted_eq_written, h.written_eq_offered j buffer rfl hbuffer] at hcarries
  exact hcarries

end Offers

/-! ## Two journals -/

section Two

variable {β₁ β₂ : Type} [Medium β₁] [Medium β₂] [Faithful β₁] [Faithful β₂]

/-- **Buffering is transparent.**  Two journals were opened over media with the
same contents, each with settings of its own and with a buffer, and were
offered the same writes in the same order; whatever else was called in
between, they agree on where the stream ends and on what every read comes to,
and once both are closed or dropped their media hold the same bytes: those
they held at first, and all that was offered. -/
theorem Reached.agree_of_offered_eq {base₁ : β₁} {base₂ : β₂} (hbase₁ : Undisturbed base₁)
    (hbase₂ : Undisturbed base₂) (hbases : contents base₁ = contents base₂)
    {history₁ history₂ : List Report} {j₁ : Live β₁} {j₂ : Live β₂}
    (h₁ : Reached base₁ history₁ (live j₁)) (h₂ : Reached base₂ history₂ (live j₂))
    {buffer₁ buffer₂ : Buffer} (hbuffer₁ : j₁.buffer = .ok buffer₁)
    (hbuffer₂ : j₂.buffer = .ok buffer₂) (hoffers : offered history₁ = offered history₂) :
    (live j₁).position = (live j₂).position ∧ (live j₁).size = (live j₂).size ∧
      (Addressable j₁.medium → Addressable j₂.medium →
        ∀ (dest : Bytes) (position length : Int64),
          ((live j₁).read dest position length).1.result =
              ((live j₂).read dest position length).1.result ∧
            ((live j₁).read dest position length).2 =
              ((live j₂).read dest position length).2) ∧
      ∀ ending₁ ending₂ : Ending,
        contents ((live j₁).endedBy ending₁) = contents ((live j₂).endedBy ending₂) ∧
          contents ((live j₁).endedBy ending₁) =
            contents base₁ ++ (offered history₁).flatten := by
  have hcarries₁ := h₁.carries_offered hbase₁ hbuffer₁
  have hcarries₂ := h₂.carries_offered hbase₂ hbuffer₂
  rw [← hbases, ← hoffers] at hcarries₂
  have hend : (live j₁).position = (live j₂).position :=
    congrArg Except.ok (hcarries₁.logicalEnd_eq.trans hcarries₂.logicalEnd_eq.symm)
  refine ⟨hend, hend, ?_, ?_⟩
  · intro hfits₁ hfits₂ dest position length
    have hread := (read_of_carries hcarries₁ hfits₁ dest position length).trans
      (read_of_carries hcarries₂ hfits₂ dest position length).symm
    exact Prod.mk.inj hread
  · intro ending₁ ending₂
    have hholds₁ : (live j₁).Holds _ := hcarries₁
    have hholds₂ : (live j₂).Holds _ := hcarries₂
    have hended₁ := hholds₁.endedBy ending₁
    exact ⟨hended₁.trans (hholds₂.endedBy ending₂).symm, hended₁⟩

/-- One journal holds five bytes back while another, without room in its
buffer, has let them all through and was forced to sync. -/
theorem agree_of_held_and_through :
    ∃ (history₁ history₂ : List Report) (j₁ j₂ : Live InMemory),
      Reached (InMemory.holding [9]) history₁ (live j₁) ∧
        Reached (InMemory.holding [9]) history₂ (live j₂) ∧
        j₁.held = [1, 2, 3, 4, 5] ∧ j₂.held = [] ∧
        offered history₁ = [[1, 2], [3, 4, 5]] ∧ offered history₂ = [[1, 2], [3, 4, 5]] ∧
        (live j₁).position = (live j₂).position ∧
        ((live j₁).read [0, 0, 0] 0 3).2 = ((live j₂).read [0, 0, 0] 0 3).2 ∧
        contents ((live j₁).endedBy .close) = contents ((live j₂).endedBy .drop) := by
  have hstart₁ : start (InMemory.holding [9]) { capacity := 8 } .heap = (.ok _, _) := rfl
  have hstart₂ : start (InMemory.holding [9]) { capacity := 0, bound := 4 } .heap =
      (.ok _, _) := rfl
  have hopened₁ : Reached (InMemory.holding [9]) _ _ := .opened rfl Supply.heap_honest hstart₁
  have hopened₂ : Reached (InMemory.holding [9]) _ _ := .opened rfl Supply.heap_honest hstart₂
  have hreached₁ := (hopened₁.called (.write [1, 2])).called (.write [3, 4, 5])
  have hreached₂ := ((hopened₂.called (.write [1, 2])).called (.flush true)).called
    (.write [3, 4, 5])
  obtain ⟨hposition, -, hread, hended⟩ :=
    hreached₁.agree_of_offered_eq trivial trivial rfl hreached₂ rfl rfl rfl
  exact ⟨_, _, _, _, hreached₁, hreached₂, rfl, rfl, rfl, rfl, hposition,
    (hread trivial trivial _ _ _).2, (hended .close .drop).1⟩

end Two

end Journal

end WriteBack
