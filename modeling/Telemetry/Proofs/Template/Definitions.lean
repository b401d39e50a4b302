import Telemetry.Proofs.Building
import Telemetry.Proofs.Keyed
import Telemetry.Template

namespace Telemetry.Template

def expanded (definitions : Definitions) (template : String) : String :=
  String.ofList (expansion definitions template).text

theorem gives_expand (definitions : Definitions) (template : String) (context : Option String) :
    Log.Gives (expand definitions template context) (expanded definitions template) :=
  (Log.gives_noteAll _).bind (Log.gives_pure _)

variable {definitions definitions' : Definitions}

theorem pass_congr (hsame : ∀ name, definitions.lookup name = definitions'.lookup name)
    (template : List Char) : pass definitions template = pass definitions' template := by
  have hrender : Piece.render definitions = Piece.render definitions' := by
    funext piece
    cases piece with
    | plain c => rfl
    | hole name => simp only [Piece.render, hsame]
  simp only [pass, hrender]

theorem unknownNames_congr (hsame : ∀ name, definitions.lookup name = definitions'.lookup name)
    (template : List Char) : unknownNames definitions template = unknownNames definitions' template := by
  have hunknown : Piece.unknown? definitions = Piece.unknown? definitions' := by
    funext piece
    cases piece with
    | plain c => rfl
    | hole name =>
        have hhas : definitions.has (String.ofList name) = definitions'.has (String.ofList name) := by
          rw [Keyed.has, Keyed.has, hsame]
        simp only [Piece.unknown?, hhas]
  simp only [unknownNames, hunknown]

theorem settle_congr (hsame : ∀ name, definitions.lookup name = definitions'.lookup name)
    (passes : Nat) (unknown : List String) (text : List Char) :
    settle definitions passes unknown text = settle definitions' passes unknown text := by
  induction passes generalizing unknown text with
  | zero => rfl
  | succ passes ih => simp only [settle, pass_congr hsame, unknownNames_congr hsame, ih]

theorem expanded_congr (hsame : ∀ name, definitions.lookup name = definitions'.lookup name)
    (template : String) : expanded definitions template = expanded definitions' template := by
  simp only [expanded, expansion, settle_congr hsame]

/-- The definitions expanded by all of them together with the host. -/
def resolved (definitions : Definitions) (host : Option String) : Definitions :=
  (withHost definitions host).map fun entry =>
    (entry.1, expanded (withHost definitions host) entry.2)

theorem gives_resolve (definitions : Definitions) (host : Option String) :
    Log.Gives (resolve definitions host) (resolved definitions host) := by
  have hentry : ∀ entry : String × String, Log.Gives
      (do
        let text ← expand (withHost definitions host) entry.2 (some ("vars." ++ entry.1))
        pure (entry.1, text))
      (entry.1, expanded (withHost definitions host) entry.2) := by
    intro entry
    exact (gives_expand _ entry.2 _).bind (Log.gives_pure _)
  have hentries := Log.gives_mapM hentry (withHost definitions host)
  unfold resolve
  extract_lets
  split
  · exact (Log.gives_note _).bind hentries
  · exact hentries

theorem lookup_withHost_congr (hsame : ∀ name, definitions.lookup name = definitions'.lookup name)
    (host : Option String) (name : String) :
    (withHost definitions host).lookup name = (withHost definitions' host).lookup name := by
  cases host with
  | none => exact hsame name
  | some host => simp only [withHost, Keyed.lookup_put, hsame]

theorem lookup_resolved_congr (hsame : ∀ name, definitions.lookup name = definitions'.lookup name)
    (host : Option String) (name : String) :
    (resolved definitions host).lookup name = (resolved definitions' host).lookup name := by
  have hexpanded : expanded (withHost definitions host) = expanded (withHost definitions' host) :=
    funext (expanded_congr (lookup_withHost_congr hsame host))
  simp only [resolved, Keyed.lookup_map, hexpanded, lookup_withHost_congr hsame host]

end Telemetry.Template
