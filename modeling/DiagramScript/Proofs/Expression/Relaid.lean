import DiagramScript.Proofs.Expression.Tiling
import DiagramScript.Script.Argument

/-! Layout moved about. No lexeme of a token has layout in it, so what comes behind layout cannot
make a lexeme longer: lexemes that stay whole and in order are scanned as the same tokens, wherever
layout is put between them. The tokens differ in their positions only, and so do trees and errors;
values do not differ at all. -/
namespace DiagramScript

/-- Layout in the place of layout, which is not taken away altogether. -/
structure Relays (gap gap' : Text) : Prop where
  before : ∀ c ∈ gap, isLayout c = true
  after : ∀ c ∈ gap', isLayout c = true
  kept : gap' = [] → gap = []

/-- The second text has the tokens of the first one, spelled in the same way, with other layout in
front of them, between them and behind them: there may be more of it or less, and there may be some
where there was none. -/
inductive Relaid : Text → Text → Prop
  | ended {gap gap'} : Relays gap gap' → Relaid gap gap'
  | token {gap gap' piece rest rest' token} : Relays gap gap' →
      Lexeme.Longest (piece ++ rest) ⟨some token, piece, rest⟩ → Relaid rest rest' →
      Relaid (gap ++ (piece ++ rest)) (gap' ++ (piece ++ rest'))

theorem Relays.refl {gap : Text} (layout : ∀ c ∈ gap, isLayout c = true) : Relays gap gap :=
  ⟨layout, layout, id⟩

theorem Relays.apart {gap gap' : Text} (relays : Relays gap gap') : Apart gap' := by
  rintro c rest rfl
  exact relays.after c List.mem_cons_self

namespace Relaid

variable {text text' : Text}

theorem of_tiled {position : Nat} {tokens : List Placed} (tiled : Tiled position text tokens) :
    Relaid text text := by
  induction tiled with
  | layout layout => exact .ended (.refl layout)
  | token layout longest _ ih => exact .token (.refl layout) longest ih

/-- Layout may cut a stretch without layout short, but nothing makes it longer. -/
theorem stretches (relaid : Relaid text text') : Stretches text' text := by
  induction relaid with
  | ended relays => exact .of_apart relays.apart _
  | @token gap gap' piece rest rest' _ relays _ _ ih =>
    rcases gap' with _ | ⟨c, gap'⟩
    · rw [relays.kept rfl]
      exact ih.behind piece
    · have apart : Apart (c :: gap' ++ (piece ++ rest')) := by
        rintro _ _ ⟨⟩
        exact relays.after c List.mem_cons_self
      exact .of_apart apart _

theorem tiled (relaid : Relaid text text') (position position' : Nat) : ∃ tokens tokens',
    Tiled position text tokens ∧ Tiled position' text' tokens' ∧
      tokens'.map Placed.unplaced = tokens.map Placed.unplaced := by
  induction relaid generalizing position position' with
  | ended relays => exact ⟨[], [], .layout relays.before, .layout relays.after, rfl⟩
  | @token gap gap' piece rest rest' token relays longest behind ih =>
    obtain ⟨tokens, tokens', tiled, tiled', same⟩ :=
      ih (position + Text.byteLength gap + Text.byteLength piece)
        (position' + Text.byteLength gap' + Text.byteLength piece)
    have longest' := longest.followed_by behind.stretches
    refine ⟨_, _, .token relays.before longest tiled, .token relays.after longest' tiled', ?_⟩
    rw [List.map_cons, List.map_cons, same]
    rfl

theorem tokenize_unplaced (relaid : Relaid text text') :
    forget (List.map Placed.unplaced) (tokenize text') =
      forget (List.map Placed.unplaced) (tokenize text) := by
  obtain ⟨tokens, tokens', tiled, tiled', same⟩ := relaid.tiled 0 0
  rw [tokenize, tokenize, tiled.tokenizeFrom_eq, tiled'.tokenizeFrom_eq, forget, forget, same]

end Relaid

theorem tokens_of_unplaced {tokens tokens' : List Placed}
    (same : tokens'.map Placed.unplaced = tokens.map Placed.unplaced) :
    tokens'.map (·.token) = tokens.map (·.token) := by
  have outcome := congrArg (List.map (·.token)) same
  rwa [List.map_map, List.map_map] at outcome

theorem Argument.value_of_same_tokens {text text' : Text}
    (same : forget (List.map Placed.unplaced) (tokenize text') =
      forget (List.map Placed.unplaced) (tokenize text)) :
    (∃ v, Argument.value text = .ok v ∧ Argument.value text' = .ok v) ∨
      ∃ cause cause', Argument.value text = .error (.invalidExpression text.trim cause) ∧
        Argument.value text' = .error (.invalidExpression text'.trim cause') ∧
        cause'.unplaced = cause.unplaced := by
  have outcome := Expression.value_of_same_tokens same
  unfold Argument.value
  cases evaluated : Expression.value text with
  | ok v =>
    rw [evaluated] at outcome
    cases evaluated' : Expression.value text' with
    | ok v' =>
      rw [evaluated'] at outcome
      cases outcome
      exact .inl ⟨_, rfl, rfl⟩
    | error cause' =>
      rw [evaluated'] at outcome
      cases outcome
  | error cause =>
    rw [evaluated] at outcome
    cases evaluated' : Expression.value text' with
    | ok v' =>
      rw [evaluated'] at outcome
      cases outcome
    | error cause' =>
      rw [evaluated'] at outcome
      exact .inr ⟨cause, cause', rfl, rfl, Except.error.inj outcome⟩

/-- A text with tokens has the same ones in the same order under any other layout, the same tree but
for positions or an error of the same kind, and the same value or an error with a cause of the same
kind. -/
theorem Relaid.same_outcome {text : Text} {tokens : List Placed}
    (tokenized : tokenize text = .ok tokens) : Relaid text text ∧ ∀ text', Relaid text text' →
      (∃ tokens', tokenize text' = .ok tokens' ∧ tokens'.map (·.token) = tokens.map (·.token) ∧
        forget Expression.unplaced (Expression.ofTokens tokens') =
          forget Expression.unplaced (Expression.ofTokens tokens)) ∧
      ((∃ v, Argument.value text = .ok v ∧ Argument.value text' = .ok v) ∨
        ∃ cause cause', Argument.value text = .error (.invalidExpression text.trim cause) ∧
          Argument.value text' = .error (.invalidExpression text'.trim cause') ∧
          cause'.unplaced = cause.unplaced) := by
  refine ⟨.of_tiled (.of_tokenizeFrom tokenized), fun text' relaid => ⟨?_, ?_⟩⟩
  · obtain ⟨tokens'', tokens', tiled, tiled', same⟩ := relaid.tiled 0 0
    cases tokenized.symm.trans tiled.tokenizeFrom_eq
    refine ⟨tokens', tiled'.tokenizeFrom_eq, tokens_of_unplaced same, ?_⟩
    rw [← Expression.ofTokens_unplaced, same, Expression.ofTokens_unplaced]
  · exact Argument.value_of_same_tokens relaid.tokenize_unplaced

theorem Relaid.same_outcome_apart :
    Argument.value " 2\t** -\n3 ".toList =
      .ok ⟨(⟨125, -3⟩ : Decimal).toBinary64 false, .zero true⟩ ∧
    ∃ cause, Argument.value "1 e\x0c+\r\n2".toList =
        .error (.invalidExpression "1 e\x0c+\r\n2".toList cause) ∧
      cause.unplaced = .unexpectedToken (.name ['e']) 0 := by
  have next (gap gap' piece : Text) {rest rest' : Text} {token : Token}
      (layout : (gap ++ gap').all isLayout = true) (kept : gap' = [] → gap = [])
      (scanned : Lexeme.scan? (piece ++ rest) = some ⟨some token, piece, rest⟩)
      (behind : Relaid rest rest') : Relaid (gap ++ (piece ++ rest)) (gap' ++ (piece ++ rest')) :=
    have split := List.forall_mem_append.mp (List.all_eq_true.mp layout)
    .token ⟨split.1, split.2, kept⟩ (Lexeme.scan?_eq_some_iff.mp scanned) behind
  have none : Relaid [] [] := .ended (.refl (List.forall_mem_nil _))
  have blank : Relaid [] [' '] := .ended ⟨List.forall_mem_nil _, by simp [isLayout], by simp⟩
  have power : Relaid "2**-3".toList " 2\t** -\n3 ".toList := by
    have three := next [] ['\n'] ['3'] (by decide) (by decide) rfl blank
    have minus := next [] [' '] ['-'] (by decide) (by decide) rfl three
    have stars := next [] ['\t'] ['*', '*'] (by decide) (by decide) rfl minus
    exact next [] [' '] ['2'] (by decide) (by decide) rfl stars
  have letter : Relaid "1e+ 2".toList "1 e\x0c+\r\n2".toList := by
    have two := next [' '] ['\r', '\n'] ['2'] (by decide) (by decide) rfl none
    have plus := next [] ['\x0c'] ['+'] (by decide) (by decide) rfl two
    have letter := next [] [' '] ['e'] (by decide) (by decide) rfl plus
    exact next [] [] ['1'] (by decide) (by decide) rfl letter
  have tokenized : tokenize "2**-3".toList = .ok
      [⟨.number ((⟨2, 0⟩ : Decimal).toBinary64 false), 0⟩, ⟨.doubleStar, 1⟩, ⟨.minus, 3⟩,
        ⟨.number ((⟨3, 0⟩ : Decimal).toBinary64 false), 4⟩] := by decide +kernel
  have evaluated : Expression.value "2**-3".toList =
      .ok ⟨(⟨125, -3⟩ : Decimal).toBinary64 false, .zero true⟩ := by decide +kernel
  have tokenized' : tokenize "1e+ 2".toList = .ok
      [⟨.number .one, 0⟩, ⟨.name ['e'], 1⟩, ⟨.plus, 2⟩,
        ⟨.number ((⟨2, 0⟩ : Decimal).toBinary64 false), 4⟩] := by decide +kernel
  have refused : Expression.value "1e+ 2".toList = .error (.unexpectedToken (.name ['e']) 1) := by
    decide +kernel
  constructor
  · rcases ((Relaid.same_outcome tokenized).2 _ power).2 with ⟨v, same, same'⟩ | ⟨_, _, fault, _⟩
    · rw [Argument.value, evaluated] at same
      rwa [Except.ok.inj same]
    · rw [Argument.value, evaluated] at fault
      cases fault
  · rcases ((Relaid.same_outcome tokenized').2 _ letter).2 with
      ⟨v, same, _⟩ | ⟨cause, cause', fault, fault', same⟩
    · rw [Argument.value, refused] at same
      cases same
    · rw [Argument.value, refused] at fault
      cases fault
      exact ⟨cause', fault', same⟩

end DiagramScript
