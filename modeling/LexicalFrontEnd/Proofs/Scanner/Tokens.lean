import LexicalFrontEnd.Proofs.Progress
import LexicalFrontEnd.Proofs.Span

/-!
What a scanner finds in a text.

A scanner decides character by character, with one more character to look at.  It
finds the tokens of the lexemes of a text, up to the end of the text
(`finds_spans`).
-/

namespace LexicalFrontEnd
namespace Scanner

/-- A scanner of the text finds the tokens and then the end of the text, if its loops
may take more rounds than the text has characters. -/
def Finds (lexicon : Lexicon) (text : List Char) (capacity : Nat) (tokens : List Token) : Prop :=
  ∃ source, Source.ofReader (.ofBytes (Text.Utf8.encode text)) capacity = .ok source ∧
    ∀ rounds, text.length < rounds →
      scanAll lexicon rounds (text.length + 1) source = some ⟨tokens, none⟩

theorem finds_spans (lexicon : Lexicon) (text : List Char) (capacity : Nat) :
    Finds lexicon text capacity ((spans lexicon text).map (·.token)) := by
  let reader : Source.Reader := .ofBytes (Text.Utf8.encode text)
  have hdeliver : reader.stream.deliver = ⟨text, none⟩ := by
    rw [Source.Reader.stream, Source.Reader.signals_ofBytes, Source.Stream.deliver_encode]
  obtain ⟨hattach, source, hsource, hstands⟩ :=
    (Session.new lexicon capacity).attach_of_deliver hdeliver (Or.inr rfl)
  obtain ⟨hscans, hexhausted, -⟩ := (Session.new lexicon capacity).read_eq_spans text
  rw [Session.read, hattach] at hscans hexhausted
  let session : Session :=
    { Session.new lexicon capacity with state := .ready ⟨.start, text, none⟩ }
  have hstate : session.state = .ready ⟨.start, text, none⟩ := rfl
  refine ⟨source, hsource, fun rounds hrounds => ?_⟩
  obtain ⟨⟨tokens, failure?⟩, hall, htokens, hlast, -⟩ :=
    scanAll_agrees hstands hstate hrounds (Nat.lt_succ_self _)
  have hfound : tokens = (spans lexicon text).map (·.token) := by
    rw [show session.scanAll.scans = _ from hscans, List.map_map] at htokens
    exact htokens
  have hend : failure? = none := by
    rw [show session.scanAll.last = _ from hexhausted] at hlast
    cases failure? with
    | none => rfl
    | some failure => cases hlast
  rw [hfound, hend] at hall
  exact hall

end Scanner
end LexicalFrontEnd
