import FlowScript.Proofs.Script.Chain
import FlowScript.Proofs.Script.Numbered
import FlowScript.Script.Chain

/-!
# Which notation a text is read in

A text is read in the numbered notation if a line of it defines a node, and as
chains only if none does. Each notation has a name and a sketch of its own, and
either says how the text was read (`read_of_ofText_numbered`,
`read_of_ofText_chain`, `read_of_ofText_labelled`).
-/

namespace FlowScript.Reading

variable {s dialect : Text} {sketch : Sketch} {notes : List Note}

theorem ofText_of_read (hs : Text.isBlankText s = false)
    (h : Numbered.read s = .recognized dialect sketch notes) :
    ofText s = .recognized dialect sketch notes := by
  rw [ofText, hs, h]
  rfl

/-- Without a definition a text is read as chains if it has some. -/
theorem ofText_of_chain {reason : Reason} (hs : Text.isBlankText s = false)
    (hn : Numbered.read s = .notApplicable reason)
    (h : Chain.read s = .recognized dialect sketch notes) :
    ofText s = .recognized dialect sketch notes := by
  rw [ofText, hs, hn]
  simp only [h]
  rfl

/-- A text that is in some notation is numbered, or has no definition and is
    made of chains. -/
theorem read_of_ofText (h : ofText s = .recognized dialect sketch notes) :
    Numbered.read s = .recognized dialect sketch notes ∨
      (∃ reason, Numbered.read s = .notApplicable reason) ∧
        Chain.read s = .recognized dialect sketch notes := by
  rw [ofText] at h
  split at h
  · cases h
  · split at h
    · next hn => exact .inl (hn.trans h)
    · next reason hn =>
      split at h
      · next hc => exact .inr ⟨⟨reason, hn⟩, hc.trans h⟩
      · cases h

theorem read_of_ofText_numbered (h : ofText s = .recognized numberedDialect sketch notes) :
    Numbered.read s = .recognized numberedDialect sketch notes := by
  rcases read_of_ofText h with h | ⟨-, h⟩
  · exact h
  · obtain ⟨_, _, hd, -⟩ := Chain.wellFormed_of_read h
    exact absurd hd (by decide)

theorem read_of_ofText_chain (h : ofText s = .recognized chainDialect sketch notes) :
    (∃ reason, Numbered.read s = .notApplicable reason) ∧
      Chain.read s = .recognized chainDialect sketch notes := by
  rcases read_of_ofText h with h | h
  · obtain ⟨_, _, hd, -⟩ := Numbered.wellFormed_of_read h
    exact absurd hd (by decide)
  · exact h

/-- Labels are only read from chains. -/
theorem read_of_ofText_labelled {labels : List Text} {links : List Link}
    (h : ofText s = .recognized dialect (.labelled labels links) notes) :
    (∃ reason, Numbered.read s = .notApplicable reason) ∧
      Chain.read s = .recognized dialect (.labelled labels links) notes := by
  rcases read_of_ofText h with h | h
  · obtain ⟨_, _, -, hsketch, -⟩ := Numbered.wellFormed_of_read h
    cases hsketch
  · exact h

end FlowScript.Reading
