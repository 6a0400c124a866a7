import DiagramScript.Proofs.Grammar.Limit

/-! Parsers that look one token ahead. What such a parser gives does not depend on the tokens behind
the first one that it leaves over, and wherever it stops, the tokens that it has read can be made
complete. The parsers of expressions are put together from parsers of this kind by the ways
below. -/
namespace DiagramScript.Grammar
open DiagramScript.Parser

/-- Some tokens more make a piece complete. -/
def Extends {α : Type} (derived : List Placed → α → Prop) (tokens : List Placed) : Prop :=
  ∃ more value, derived (tokens ++ more) value

/-- The errors that do not say how the tokens could go on. -/
def Mute : ExpressionError → Prop
  | .unexpectedEnd => False
  | .unexpectedToken _ _ => False
  | .trailingToken _ _ => False
  | _ => True

/-- What a parser gives for some tokens is the same for all tokens that agree with them up to the
first one left over, or up to the one that is refused. If the parser stops at the end, or refuses a
token, then what comes before can be made complete. -/
inductive Predicts {α : Type} (parser : Parser α) (derived : List Placed → α → Prop)
    (tokens : List Placed) : Except ExpressionError (α × List Placed) → Prop
  | read {read rest value} : tokens = read ++ rest → derived read value →
      (∀ rest' : List Placed, rest'.head? = rest.head? →
        parser (read ++ rest') = .ok (value, rest')) →
      Predicts parser derived tokens (.ok (value, rest))
  | ended : Extends derived tokens → Predicts parser derived tokens (.error .unexpectedEnd)
  | refused {before after token position} : tokens = before ++ ⟨token, position⟩ :: after →
      Extends derived before →
      (∀ after', parser (before ++ ⟨token, position⟩ :: after') =
        .error (.unexpectedToken token position)) →
      Predicts parser derived tokens (.error (.unexpectedToken token position))
  | failed {cause} : Mute cause → Predicts parser derived tokens (.error cause)

def Predictive {α : Type} (parser : Parser α) (derived : List Placed → α → Prop) : Prop :=
  ∀ tokens, Predicts parser derived tokens (parser tokens)

theorem head?_append_congr {left right right' : List Placed} (same : right'.head? = right.head?) :
    (left ++ right').head? = (left ++ right).head? := by
  rw [List.head?_append, List.head?_append, same]

theorem head?_append_cons (left : List Placed) (placed : Placed) (right right' : List Placed) :
    (left ++ placed :: right').head? = (left ++ placed :: right).head? := by
  rw [List.head?_append, List.head?_append]
  rfl

namespace Predicts

variable {α β : Type} {parser parser' : Parser α} {derived derived' : List Placed → α → Prop}
  {tokens rest : List Placed} {placed : Placed}

theorem of_value (value : α) (empty : derived [] value) :
    Predicts (fun rest => .ok (value, rest)) derived tokens (.ok (value, tokens)) :=
  .read rfl empty fun _ _ => rfl

theorem of_error {cause : ExpressionError} (failed : parser tokens = .error cause)
    (mute : Mute cause) : Predicts parser derived tokens (parser tokens) :=
  failed ▸ .failed mute

theorem of_token (refused : ∀ rest, parser (placed :: rest) =
      .error (.unexpectedToken placed.token placed.position)) (extendable : Extends derived []) :
    Predicts parser derived (placed :: rest) (parser (placed :: rest)) := by
  rw [refused]
  exact .refused (List.nil_append _).symm extendable refused

theorem of_first {value : α} (taken : ∀ rest, parser (placed :: rest) = .ok (value, rest))
    (whole : derived [placed] value) :
    Predicts parser derived (placed :: rest) (parser (placed :: rest)) := by
  rw [taken]
  exact .read (List.singleton_append).symm whole fun rest' _ => taken rest'

theorem mono {outcome : Except ExpressionError (α × List Placed)}
    (predicts : Predicts parser derived tokens outcome)
    (weaker : ∀ {read value}, derived read value → derived' read value) :
    Predicts parser derived' tokens outcome := by
  cases predicts with
  | read split whole onward => exact .read split (weaker whole) onward
  | ended extendable =>
    obtain ⟨more, value, whole⟩ := extendable
    exact .ended ⟨more, value, weaker whole⟩
  | refused split extendable onward =>
    obtain ⟨more, value, whole⟩ := extendable
    exact .refused split ⟨more, value, weaker whole⟩ onward
  | failed mute => exact .failed mute

theorem congr (same : ∀ tokens' : List Placed, tokens'.head? = tokens.head? →
      parser tokens' = parser' tokens')
    (predicts : Predicts parser' derived tokens (parser' tokens)) :
    Predicts parser derived tokens (parser tokens) := by
  rw [same tokens rfl]
  generalize parser' tokens = outcome at predicts
  cases predicts with
  | read split whole onward =>
    subst split
    refine .read rfl whole fun rest' first => ?_
    rw [same _ (head?_append_congr first), onward rest' first]
  | ended extendable => exact .ended extendable
  | refused split extendable onward =>
    subst split
    refine .refused rfl extendable fun after' => ?_
    rw [same _ (head?_append_cons _ _ _ _), onward]
  | failed mute => exact .failed mute

theorem cons (same : ∀ rest, parser (placed :: rest) = parser' rest)
    (predicts : Predicts parser' (fun read => derived (placed :: read)) rest (parser' rest)) :
    Predicts parser derived (placed :: rest) (parser (placed :: rest)) := by
  rw [same]
  generalize parser' rest = outcome at predicts
  cases predicts with
  | @read read rest' value split whole onward =>
    have split' : placed :: rest = (placed :: read) ++ rest' := congrArg (placed :: ·) split
    refine .read split' whole fun rest' first => ?_
    rw [← onward rest' first]
    exact same _
  | ended extendable => exact .ended extendable
  | @refused before after token position split extendable onward =>
    have split' : placed :: rest = (placed :: before) ++ ⟨token, position⟩ :: after :=
      congrArg (placed :: ·) split
    refine .refused split' extendable fun after' => ?_
    rw [← onward after']
    exact same _
  | failed mute => exact .failed mute

/-- Two parsers one after the other. Whatever the first one reads, the second one could finish. -/
theorem bind {first : Parser β} {next : β → Parser α} {part : List Placed → β → Prop}
    {others : β → List Placed → α → Prop}
    (same : ∀ tokens, parser tokens = first tokens >>= fun result => next result.1 result.2)
    (predicts : Predicts first part tokens (first tokens))
    (later : ∀ read value rest, tokens = read ++ rest → part read value →
      Predicts (next value) (others value) rest (next value rest))
    (join : ∀ {read value read' value'}, part read value → others value read' value' →
      derived (read ++ read') value')
    (finish : ∀ value, Extends (others value) []) :
    Predicts parser derived tokens (parser tokens) := by
  rw [same]
  generalize first tokens = outcome at predicts
  cases predicts with
  | @read read rest value split whole onward =>
    have predicts' := later read value rest split whole
    change Predicts parser derived tokens (next value rest)
    generalize next value rest = outcome' at predicts'
    subst split
    cases predicts' with
    | read split whole' onward' =>
      subst split
      refine .read (List.append_assoc _ _ _).symm (join whole whole') fun rest' first => ?_
      rw [same, List.append_assoc, onward _ (head?_append_congr first)]
      exact onward' rest' first
    | ended extendable =>
      obtain ⟨more, value', whole'⟩ := extendable
      exact .ended ⟨more, value', by simpa using join whole whole'⟩
    | refused split extendable onward' =>
      obtain ⟨more, value', whole'⟩ := extendable
      subst split
      refine .refused (List.append_assoc _ _ _).symm
        ⟨more, value', by simpa using join whole whole'⟩ fun after' => ?_
      rw [same, List.append_assoc, onward _ (head?_append_cons _ _ _ _)]
      exact onward' after'
    | failed mute => exact .failed mute
  | ended extendable =>
    obtain ⟨more, value, whole⟩ := extendable
    obtain ⟨more', value', whole'⟩ := finish value
    exact .ended ⟨more ++ more', value', by simpa using join whole whole'⟩
  | refused split extendable onward =>
    obtain ⟨more, value, whole⟩ := extendable
    obtain ⟨more', value', whole'⟩ := finish value
    refine .refused split ⟨more ++ more', value', by simpa using join whole whole'⟩ fun after' => ?_
    rw [same, onward]
    rfl
  | failed mute => exact .failed mute

theorem map {first : Parser β} {part : List Placed → β → Prop} (change : β → α)
    (same : ∀ tokens, parser tokens =
      first tokens >>= fun result => .ok (change result.1, result.2))
    (predicts : Predicts first part tokens (first tokens))
    (join : ∀ {read value}, part read value → derived read (change value)) :
    Predicts parser derived tokens (parser tokens) := by
  have unchanged (value : β) (rest : List Placed) : Predicts (fun rest => .ok (change value, rest))
      (fun read value' => read = [] ∧ value' = change value) rest (.ok (change value, rest)) :=
    of_value (change value) ⟨rfl, rfl⟩
  refine bind same predicts (fun _ value rest _ _ => unchanged value rest) ?_
    fun value => ⟨[], change value, rfl, rfl⟩
  rintro read value read' value' whole ⟨rfl, rfl⟩
  rw [List.append_nil]
  exact join whole

end Predicts

end DiagramScript.Grammar
