import StreamNames.Proofs.Pattern.Pieces

/-!
# Respelling twice is respelling once

A pattern that was respelled falls into the pieces of the pattern as written, respelled
(`pieces_respell`). So a second respelling finds the same tokens, and what the first made
of them is lost.

- `Dialect.respell_respell`: the later of two directions decides.
- `toExternal_eq_self_iff`: a pattern is written in the external dialect exactly if none
  of its pieces is a token of the internal one, because such a token gets longer.
- `dialects_absorb`: what this means for the two directions together.
-/

namespace StreamNames

namespace Dialect

/-- **Of two respellings the later decides**, for the same direction as for opposite
ones. -/
theorem respell_respell (d e : Dialect) (text : List Char) :
    respell e false (respell d false text) = respell e false text := by
  calc respell e false (respell d false text)
      = writePieces (((pieces text).map (Piece.respell d)).map (Piece.respell e)) := by
        rw [respell_eq_writePieces e, pieces_respell]
    _ = writePieces ((pieces text).map (Piece.respell e)) := by
        rw [List.map_map]
        exact congrArg writePieces (List.map_congr_left fun p _ => Piece.respell_respell d e p)
    _ = respell e false text := (respell_eq_writePieces e text).symm

/-! ## What a respelling leaves alone -/

/-- A piece is a token of a dialect. -/
def Piece.IsTokenOf (d : Dialect) : Piece → Prop
  | .token e _ _ => e = d
  | _ => False

instance (d : Dialect) (p : Piece) : Decidable (p.IsTokenOf d) :=
  match p with
  | .token e _ _ => inferInstanceAs (Decidable (e = d))
  | .escape _ | .bracketed _ _ | .single _ => inferInstanceAs (Decidable False)

/-- A token takes one character more in the external dialect. -/
theorem length_write_respell_external (p : Piece) :
    (p.respell external).write.length =
      p.write.length + if p.IsTokenOf internal then 1 else 0 := by
  cases p with
  | token d kind name =>
    cases d <;> cases kind <;>
      simp [Piece.respell, Piece.write, Piece.IsTokenOf, writeToken, opening, groupOpening,
        referenceOpening]
  | escape _ => rfl
  | bracketed _ _ => rfl
  | single _ => rfl

theorem length_writePieces_map_respell_external (ps : List Piece) :
    (writePieces (ps.map (Piece.respell external))).length =
      (writePieces ps).length + ps.countP fun p => decide (p.IsTokenOf internal) := by
  induction ps with
  | nil => rfl
  | cons p ps ih =>
    rw [List.map_cons, writePieces_cons, List.length_append, ih, length_write_respell_external,
      writePieces_cons, List.length_append, List.countP_cons]
    simp only [decide_eq_true_eq]
    omega

theorem respell_external_eq_of_not_isTokenOf {p : Piece} (h : ¬p.IsTokenOf internal) :
    p.respell external = p := by
  cases p with
  | token d kind name =>
    cases d with
    | external => rfl
    | internal => exact absurd rfl h
  | escape _ => rfl
  | bracketed _ _ => rfl
  | single _ => rfl

theorem respell_external_eq_self_iff (text : List Char) :
    respell external false text = text ↔ ∀ p ∈ pieces text, ¬p.IsTokenOf internal := by
  rw [respell_eq_writePieces]
  -- a token is longer in the external dialect, so an equal text has respelled none
  constructor
  · intro h
    have hlength := congrArg List.length h
    rw [length_writePieces_map_respell_external, writePieces_pieces] at hlength
    have hcount : (pieces text).countP (fun p => decide (p.IsTokenOf internal)) = 0 := by omega
    intro p hp
    simpa using List.countP_eq_zero.mp hcount p hp
  · intro h
    calc writePieces ((pieces text).map (Piece.respell external))
        = writePieces (pieces text) := by
          refine congrArg writePieces ?_
          conv => rhs; rw [← List.map_id (pieces text)]
          exact List.map_congr_left fun p hp => respell_external_eq_of_not_isTokenOf (h p hp)
      _ = text := writePieces_pieces text

end Dialect

/-! ## Whole patterns -/

open Dialect

/-- A pattern is the same in the external dialect exactly if none of its pieces is a token
of the internal one. -/
theorem toExternal_eq_self_iff (pattern : String) :
    toExternal pattern = pattern ↔
      ∀ p ∈ pieces pattern.toList, ¬p.IsTokenOf internal := by
  rw [← respell_external_eq_self_iff, ← String.toList_inj, toExternal, String.toList_ofList]

/-- **The two directions absorb one another**, so each is idempotent, and a pattern comes
back from the internal dialect exactly if it has no internal token to begin with. -/
theorem dialects_absorb (pattern : String) :
    toExternal (toInternal pattern) = toExternal pattern ∧
    toInternal (toExternal pattern) = toInternal pattern ∧
    toInternal (toInternal pattern) = toInternal pattern ∧
    toExternal (toExternal pattern) = toExternal pattern ∧
    (toExternal (toInternal pattern) = pattern ↔ toExternal pattern = pattern) ∧
    (toExternal pattern = pattern ↔
      ∀ p ∈ pieces pattern.toList, ¬p.IsTokenOf internal) := by
  -- whatever dialect comes first, the later one respells every token
  have hlater : ∀ d e : Dialect,
      String.ofList (respell e false (String.ofList (respell d false pattern.toList)).toList) =
        String.ofList (respell e false pattern.toList) := by
    intro d e
    rw [String.toList_ofList, respell_respell]
  have habsorb : toExternal (toInternal pattern) = toExternal pattern := hlater internal external
  refine ⟨habsorb, hlater external internal, hlater internal internal,
    hlater external external, ?_, toExternal_eq_self_iff pattern⟩
  rw [habsorb]

end StreamNames
