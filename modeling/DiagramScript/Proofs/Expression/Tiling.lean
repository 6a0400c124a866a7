import DiagramScript.Proofs.Expression.Places
import DiagramScript.Proofs.Number.Numerals

/-! Expressions as tilings. The classes of lexemes are given apart from any way to find them; the
scanner takes the longest text of a class that its input starts with (`Lexeme.scan?_eq_some_iff`).
So the tokens of an expression, with layout between them, make up the whole of it, each as long as
it can be, and an expression without tokens is refused where no class has a text. -/
namespace DiagramScript

namespace Decimal

theorem scan?_eq_none {c : Char} (other : c.isDigit = false) (apart : c ≠ '.') (rest : Text) :
    scan? (c :: rest) = none := by
  rw [Option.eq_none_iff_forall_ne_some]
  intro taken scanned
  obtain ⟨c', others, same, start⟩ := numeral_head (numeral_of_scan? scanned)
  have splits := scan?_splits scanned
  rw [Taken.Splits, same, List.cons_append, List.cons.injEq] at splits
  rw [splits.1, other] at start
  rcases start with digit | point
  · cases digit
  · exact apart point

end Decimal

namespace Lexeme

def symbols : List (Text × Token) :=
  [(['*', '*'], .doubleStar), (['^'], .caret), (['+'], .plus), (['-'], .minus), (['*'], .star),
    (['/'], .slash), (['('], .leftParen), ([')'], .rightParen), ([','], .comma)]

/-- The classes of lexemes, with what a text in each of them stands for. Layout stands for
nothing. -/
inductive Belongs : Text → Option Token → Prop
  | number {text d} : Decimal.Numeral text d →
      Belongs text (some (.number (d.toBinary64 false)))
  | name {c others} : startsName c = true → (∀ c' ∈ others, continuesName c' = true) →
      Belongs (c :: others) (some (.name (c :: others)))
  | symbol {text token} : (text, token) ∈ symbols → Belongs text (some token)
  | layout {text} : text ≠ [] → (∀ c ∈ text, isLayout c = true) → Belongs text none

/-- A lexeme at the start of a text than which no class has a longer one there. -/
structure Longest (input : Text) (lexeme : Lexeme) : Prop where
  splits : lexeme.Splits input
  belongs : Belongs lexeme.text lexeme.value
  longest : ∀ piece meaning, piece <+: input → Belongs piece meaning →
    piece.length ≤ lexeme.text.length

variable {input piece : Text} {lexeme : Lexeme} {meaning : Option Token}

theorem belongs_of_scanFixed? (scanned : scanFixed? input = some lexeme) :
    Belongs lexeme.text lexeme.value := by
  unfold scanFixed? at scanned
  split at scanned <;> cases scanned <;> exact .symbol (by simp [symbols])

theorem belongs_of_scanRun? (scanned : scanRun? input = some lexeme) :
    Belongs lexeme.text lexeme.value := by
  unfold scanRun? at scanned
  split at scanned
  · split at scanned
    · rename_i name
      cases scanned
      exact .name name fun c member => List.mem_takeWhile_imp member
    · split at scanned
      · rename_i layout
        cases scanned
        refine .layout (List.cons_ne_nil _ _) (List.forall_mem_cons.mpr ⟨layout, ?_⟩)
        exact fun c member => List.mem_takeWhile_imp member
      · cases scanned
  · cases scanned

theorem belongs_of_scan? (scanned : scan? input = some lexeme) :
    Belongs lexeme.text lexeme.value := by
  unfold scan? at scanned
  split at scanned
  · rename_i found
    cases scanned
    exact .number (Decimal.numeral_of_scan? found)
  · cases fixed : scanFixed? input with
    | some lexeme' =>
      rw [fixed] at scanned
      cases scanned
      exact belongs_of_scanFixed? fixed
    | none =>
      rw [fixed] at scanned
      exact belongs_of_scanRun? scanned

theorem isDigit_of_startsName {c : Char} (starts : startsName c = true) :
    c.isDigit = false ∧ c ≠ '.' := by
  constructor
  · rw [← Bool.not_eq_true]
    intro digit
    unfold startsName Char.isAlpha Char.isUpper Char.isLower at starts
    unfold Char.isDigit at digit
    simp only [Bool.or_eq_true, Bool.and_eq_true, decide_eq_true_eq, beq_iff_eq,
      UInt32.le_iff_toNat_le, ge_iff_le] at starts digit
    change ((65 ≤ c.toNat ∧ c.toNat ≤ 90) ∨ (97 ≤ c.toNat ∧ c.toNat ≤ 122)) ∨ c = '_' at starts
    change 48 ≤ c.toNat ∧ c.toNat ≤ 57 at digit
    rcases starts with letter | rfl
    · omega
    · exact absurd digit.2 (by decide)
  · rintro rfl
    cases starts

theorem scanFixed?_of_startsName {c : Char} (starts : startsName c = true) (rest : Text) :
    scanFixed? (c :: rest) = none := by
  unfold scanFixed?
  split
  all_goals first
    | rfl
    | rename_i same
      cases same
      cases starts

theorem scanFixed?_reaches {token : Token} (member : (piece, token) ∈ symbols) (rest : Text) :
    ∃ lexeme, scanFixed? (piece ++ rest) = some lexeme ∧
      lexeme.Reaches (some token) piece rest := by
  simp only [symbols, List.mem_cons, Prod.mk.injEq, List.not_mem_nil, or_false] at member
  rcases member with ⟨rfl, rfl⟩ | ⟨rfl, rfl⟩ | ⟨rfl, rfl⟩ | ⟨rfl, rfl⟩ | ⟨rfl, rfl⟩ |
    ⟨rfl, rfl⟩ | ⟨rfl, rfl⟩ | ⟨rfl, rfl⟩ | ⟨rfl, rfl⟩
  case inr.inr.inr.inr.inl =>
    rcases rest with _ | ⟨c, rest⟩
    · exact ⟨_, rfl, .inr rfl⟩
    · by_cases star : c = '*'
      · subst star
        exact ⟨_, rfl, .inl (Nat.lt_succ_self 1)⟩
      · exact ⟨⟨some .star, ['*'], c :: rest⟩, by simp [scanFixed?, star], .inr rfl⟩
  all_goals exact ⟨_, rfl, .inr rfl⟩

theorem symbols_head {token : Token} (member : (piece, token) ∈ symbols) :
    ∃ c others, piece = c :: others ∧ c.isDigit = false ∧ c ≠ '.' := by
  simp only [symbols, List.mem_cons, Prod.mk.injEq, List.not_mem_nil, or_false] at member
  rcases member with ⟨rfl, -⟩ | ⟨rfl, -⟩ | ⟨rfl, -⟩ | ⟨rfl, -⟩ | ⟨rfl, -⟩ | ⟨rfl, -⟩ | ⟨rfl, -⟩ |
    ⟨rfl, -⟩ | ⟨rfl, -⟩ <;> exact ⟨_, _, rfl, rfl, by decide⟩

theorem scan?_reaches (belongs : Belongs piece meaning) (rest : Text) :
    ∃ lexeme, scan? (piece ++ rest) = some lexeme ∧ lexeme.Reaches meaning piece rest := by
  cases belongs with
  | number numeral =>
    obtain ⟨taken, scanned, reached⟩ := Decimal.scan?_reaches rest numeral
    rw [scan?, scanned]
    refine ⟨_, rfl, ?_⟩
    rcases reached with longer | rfl
    · exact .inl longer
    · exact .inr rfl
  | @name c others starts continues =>
    obtain ⟨digit, point⟩ := isDigit_of_startsName starts
    rw [List.cons_append, scan?, Decimal.scan?_eq_none digit point,
      scanFixed?_of_startsName starts]
    simp only [Option.orElse_none, scanRun?, if_pos starts]
    refine ⟨_, rfl, ?_⟩
    exact (Taken.run_reaches continues rest).behind c fun others =>
      some (Token.name (c :: others))
  | symbol member =>
    obtain ⟨lexeme, scanned, reached⟩ := scanFixed?_reaches member rest
    obtain ⟨c, others, rfl, digit, point⟩ := symbols_head member
    rw [List.cons_append] at scanned ⊢
    rw [scan?, Decimal.scan?_eq_none digit point, scanned]
    exact ⟨lexeme, rfl, reached⟩
  | @layout text some layout =>
    obtain ⟨c, others, rfl⟩ := List.exists_cons_of_ne_nil some
    obtain ⟨first, inside⟩ := List.forall_mem_cons.mp layout
    refine ⟨_, scan?_of_isLayout first (others ++ rest), ?_⟩
    rcases (Taken.run_reaches inside rest).behind c fun _ => none with longer | same
    · exact .inl longer
    · exact .inr same

theorem scan?_eq_some_iff : scan? input = some lexeme ↔ Longest input lexeme := by
  constructor
  · intro scanned
    refine ⟨(scan?_splits scanned).1, belongs_of_scan? scanned, ?_⟩
    rintro piece meaning ⟨rest, rfl⟩ belongs
    obtain ⟨lexeme', scanned', reached⟩ := scan?_reaches belongs rest
    cases scanned.symm.trans scanned'
    rcases reached with longer | rfl
    · exact Nat.le_of_lt longer
    · exact Nat.le_refl _
  · rintro ⟨splits, belongs, longest⟩
    obtain ⟨lexeme', scanned, longer | rfl⟩ := scan?_reaches belongs lexeme.rest
    · have splits' := (scan?_splits scanned).1
      rw [splits] at splits'
      have bound := longest lexeme'.text lexeme'.value ⟨lexeme'.rest, splits'⟩
        (belongs_of_scan? scanned)
      omega
    · rwa [splits] at scanned

theorem scan?_eq_none_iff :
    scan? input = none ↔ ∀ piece meaning, piece <+: input → ¬Belongs piece meaning := by
  constructor
  · rintro unscanned piece meaning ⟨rest, rfl⟩ belongs
    obtain ⟨lexeme, scanned, _⟩ := scan?_reaches belongs rest
    rw [unscanned] at scanned
    cases scanned
  · intro none
    rw [Option.eq_none_iff_forall_ne_some]
    intro lexeme scanned
    exact none lexeme.text lexeme.value ⟨lexeme.rest, (scan?_splits scanned).1⟩
      (belongs_of_scan? scanned)

/-- A lexeme stays the longest one where less follows it. -/
theorem Longest.cut {rest more : Text}
    (longest : Longest (piece ++ (rest ++ more)) ⟨meaning, piece, rest ++ more⟩) :
    Longest (piece ++ rest) ⟨meaning, piece, rest⟩ where
  splits := rfl
  belongs := longest.belongs
  longest piece' meaning' front belongs :=
    longest.longest piece' meaning' (front.trans ⟨more, by simp⟩) belongs

theorem Belongs.solid {token : Token} (belongs : Belongs piece (some token)) :
    ∀ c ∈ piece, isLayout c = false := by
  intro c member
  rw [← Bool.not_eq_true]
  intro layout
  cases belongs with
  | number numeral =>
    rcases Decimal.numeral_characters numeral c member with digit | sign
    · rw [isDigit_of_isLayout layout] at digit
      cases digit
    · rcases isLayout_cases layout with rfl | rfl | rfl | rfl | rfl <;> simp at sign
  | name starts continues =>
    have name : continuesName c = true := by
      rcases List.mem_cons.mp member with rfl | member
      · exact continuesName_of_startsName starts
      · exact continues c member
    rw [continuesName_of_isLayout layout] at name
    cases name
  | symbol symbol =>
    have spelled : symbols.all (fun entry => entry.1.all (!isLayout ·)) = true := by decide
    have other := List.all_eq_true.mp (List.all_eq_true.mp spelled _ symbol) c member
    rw [layout] at other
    cases other

end Lexeme

/-- Whatever stretch without layout starts the first text starts the second one too. -/
def Stretches (text' text : Text) : Prop :=
  ∀ front, (∀ c ∈ front, isLayout c = false) → front <+: text' → front <+: text

namespace Stretches

variable {rest rest' : Text}

theorem of_apart (apart : Apart rest') (rest : Text) : Stretches rest' rest := by
  rintro (_ | ⟨c, front⟩) solid ⟨behind, rfl⟩
  · exact List.nil_prefix
  · have layout := apart c (front ++ behind) rfl
    rw [solid c List.mem_cons_self] at layout
    cases layout

theorem behind (stretches : Stretches rest' rest) (piece : Text) :
    Stretches (piece ++ rest') (piece ++ rest) := by
  intro front solid start
  rcases List.prefix_or_prefix_of_prefix start (List.prefix_append piece rest') with
    within | ⟨more, rfl⟩
  · exact within.trans (List.prefix_append piece rest)
  · have inside := (List.forall_mem_append.mp solid).2
    have start' := (List.prefix_append_right_inj piece).mp start
    exact (List.prefix_append_right_inj piece).mpr (stretches more inside start')

end Stretches

theorem Lexeme.Longest.followed_by {piece rest rest' : Text} {token : Token}
    (longest : Longest (piece ++ rest) ⟨some token, piece, rest⟩)
    (stretches : Stretches rest' rest) :
    Longest (piece ++ rest') ⟨some token, piece, rest'⟩ where
  splits := rfl
  belongs := longest.belongs
  longest other meaning start belongs := by
    cases meaning with
    | some token' =>
      exact longest.longest _ _ (stretches.behind piece _ belongs.solid start) belongs
    | none =>
      -- A run of layout does not start where the lexeme of a token does.
      have scanned := scan?_eq_some_iff.mpr longest
      obtain ⟨c, others, rfl⟩ := List.exists_cons_of_ne_nil (scan?_splits scanned).2
      cases belongs with
      | layout some layout =>
        obtain ⟨c', others', rfl⟩ := List.exists_cons_of_ne_nil some
        obtain ⟨rfl, -⟩ := List.cons_prefix_cons.mp start
        have clash := layout c' List.mem_cons_self
        rw [longest.belongs.solid c' List.mem_cons_self] at clash
        cases clash

/-- A text as a row of longest tokens with layout between them. The first byte of the text stands at
the given position. -/
inductive Tiled : (position : Nat) → Text → List Placed → Prop
  | layout {position gap} : (∀ c ∈ gap, isLayout c = true) → Tiled position gap []
  | token {position gap piece rest token tokens} : (∀ c ∈ gap, isLayout c = true) →
      Lexeme.Longest (piece ++ rest) ⟨some token, piece, rest⟩ →
      Tiled (position + Text.byteLength gap + Text.byteLength piece) rest tokens →
      Tiled position (gap ++ (piece ++ rest)) (⟨token, position + Text.byteLength gap⟩ :: tokens)

namespace Tiled

variable {position : Nat} {text gap : Text} {tokens : List Placed}

theorem behind_layout (layout : ∀ c ∈ gap, isLayout c = true)
    (tiled : Tiled (position + Text.byteLength gap) text tokens) :
    Tiled position (gap ++ text) tokens := by
  cases tiled with
  | layout more => exact .layout (List.forall_mem_append.mpr ⟨layout, more⟩)
  | @token _ more piece rest token tokens space longest later =>
    have place : position + Text.byteLength gap + Text.byteLength more =
        position + Text.byteLength (gap ++ more) := by
      rw [Text.byteLength_append, Nat.add_assoc]
    rw [place] at later ⊢
    rw [← List.append_assoc]
    exact .token (List.forall_mem_append.mpr ⟨layout, space⟩) longest later

theorem of_tokenizeFrom (tokenized : tokenizeFrom position text = .ok tokens) :
    Tiled position text tokens := by
  induction size : text.length using Nat.strongRecOn generalizing position text tokens with
  | _ size ih =>
    rcases text with _ | ⟨c, rest⟩
    · rw [tokenizeFrom] at tokenized
      cases tokenized
      exact .layout (List.forall_mem_nil _)
    · obtain ⟨lexeme, others, scanned, later, rfl⟩ := tokenizeFrom_eq_ok tokenized
      have tiled := ih _ (by rw [← size]; exact Lexeme.rest_shorter scanned) later rfl
      have longest := Lexeme.scan?_eq_some_iff.mp scanned
      have splits : lexeme.text ++ lexeme.rest = c :: rest := longest.splits
      rw [← splits]
      -- A lexeme without a token is layout; any other one is the next token, with nothing before.
      rcases lexeme with ⟨_ | token, piece, rest'⟩
      · cases longest.belongs with
        | layout _ layout => exact tiled.behind_layout layout
      · rw [← splits] at longest
        exact .token (List.forall_mem_nil _) longest tiled

theorem tokenizeFrom_eq (tiled : Tiled position text tokens) :
    tokenizeFrom position text = .ok tokens := by
  induction tiled with
  | @layout position gap layout =>
    rw [← List.append_nil gap, tokenizeFrom_layout_append layout, tokenizeFrom]
  | @token position gap piece rest token tokens layout longest _ ih =>
    have scanned := Lexeme.scan?_eq_some_iff.mpr longest
    obtain ⟨c, others, rfl⟩ := List.exists_cons_of_ne_nil (Lexeme.scan?_splits scanned).2
    rw [List.cons_append] at scanned ⊢
    rw [tokenizeFrom_layout_append layout, tokenizeFrom_of_some scanned, ih]
    rfl

theorem positions (tiled : Tiled position text tokens) :
    (∀ placed ∈ tokens, position ≤ placed.position) ∧
      tokens.Pairwise (fun placed next => placed.position < next.position) := by
  induction tiled with
  | layout => exact ⟨List.forall_mem_nil _, .nil⟩
  | @token position gap piece rest token tokens _ longest _ ih =>
    have size : 0 < Text.byteLength piece :=
      Text.byteLength_pos (Lexeme.scan?_splits (Lexeme.scan?_eq_some_iff.mpr longest)).2
    refine ⟨List.forall_mem_cons.mpr ⟨Nat.le_add_right _ _, ?_⟩, .cons ?_ ih.2⟩
    · intro placed member
      have := ih.1 placed member
      omega
    · intro placed member
      have := ih.1 placed member
      dsimp only
      omega

theorem of_refused {cause : ExpressionError}
    (refused : tokenizeFrom position text = .error cause) :
    ∃ before c after tokens, text = before ++ c :: after ∧ Tiled position before tokens ∧
      Lexeme.scan? (c :: after) = none ∧
      cause = .unexpectedCharacter c (position + Text.byteLength before) := by
  induction size : text.length using Nat.strongRecOn generalizing position text with
  | _ size ih =>
    rcases text with _ | ⟨c, behind⟩
    · rw [tokenizeFrom] at refused
      cases refused
    · obtain ⟨unscanned, rfl⟩ | ⟨lexeme, scanned, later⟩ := tokenizeFrom_eq_error refused
      · exact ⟨[], c, behind, [], rfl, .layout (List.forall_mem_nil _), unscanned, rfl⟩
      · obtain ⟨before, c', after, tokens, rest, tiled, unscanned, rfl⟩ :=
          ih _ (by rw [← size]; exact Lexeme.rest_shorter scanned) later rfl
        have longest := Lexeme.scan?_eq_some_iff.mp scanned
        have splits : lexeme.text ++ lexeme.rest = c :: behind := longest.splits
        have whole : c :: behind = (lexeme.text ++ before) ++ c' :: after := by
          rw [← splits, rest, List.append_assoc]
        have place : position + Text.byteLength lexeme.text + Text.byteLength before =
            position + Text.byteLength (lexeme.text ++ before) := by
          rw [Text.byteLength_append, Nat.add_assoc]
        rw [place, whole]
        rw [← splits, rest] at longest
        rcases lexeme with ⟨_ | token, piece, rest'⟩
        · cases longest.belongs with
          | layout _ layout =>
            exact ⟨_, c', after, tokens, rfl, tiled.behind_layout layout, unscanned, rfl⟩
        · cases rest
          exact ⟨_, c', after, _, rfl, .token (List.forall_mem_nil _) longest.cut tiled, unscanned,
            rfl⟩

end Tiled

theorem tokenizeFrom_eq_ok_iff {position : Nat} {text : Text} {tokens : List Placed} :
    tokenizeFrom position text = .ok tokens ↔ Tiled position text tokens :=
  ⟨.of_tokenizeFrom, Tiled.tokenizeFrom_eq⟩

/-- An expression has tokens exactly when it is a row of longest tokens with layout between them.
Otherwise it is refused at the end of such a row, for a character where no class has a text, which
is neither a digit nor a letter. Every text of the class of numbers is read as the number that its
token has. -/
theorem tokenize_tiles (text : Text) :
    (∀ tokens, tokenize text = .ok tokens ↔ Tiled 0 text tokens) ∧
      (∀ tokens, tokenize text = .ok tokens →
        tokens.Pairwise fun placed next => placed.position < next.position) ∧
      (∀ cause, tokenize text = .error cause → ∃ before c after tokens,
        text = before ++ c :: after ∧
        cause = .unexpectedCharacter c (Text.byteLength before) ∧
        tokenize before = .ok tokens ∧
        (∀ piece meaning, piece <+: c :: after → ¬Lexeme.Belongs piece meaning) ∧
        c.isDigit = false ∧ c.isAlpha = false) ∧
      ∀ numeral d, Decimal.Numeral numeral d →
        Binary64.read? numeral = some (d.toBinary64 false) := by
  refine ⟨fun tokens => tokenizeFrom_eq_ok_iff, ?_, ?_, ?_⟩
  · intro tokens tokenized
    exact (Tiled.of_tokenizeFrom tokenized).positions.2
  · intro cause refused
    obtain ⟨before, c, after, tokens, split, tiled, unscanned, place⟩ := Tiled.of_refused refused
    rw [Nat.zero_add] at place
    have none := Lexeme.scan?_eq_none_iff.mp unscanned
    refine ⟨before, c, after, tokens, split, place, tiled.tokenizeFrom_eq, none, ?_, ?_⟩
    · rw [← Bool.not_eq_true]
      intro digit
      have numeral := Decimal.Numeral.whole (List.forall_mem_singleton.mpr digit)
        (List.cons_ne_nil c []) .none
      exact none [c] _ ⟨after, rfl⟩ (.number numeral)
    · rw [← Bool.not_eq_true]
      intro letter
      exact none [c] _ ⟨after, rfl⟩
        (.name (by simp [startsName, letter]) (List.forall_mem_nil _))
  · exact fun _ _ => Binary64.read?_of_numeral

theorem tokenize_tiles_numbers :
    (∃ tokens, tokenize "1.5.2 1e**".toList = .ok tokens ∧
      tokens.map (·.position) = [0, 3, 6, 7, 8] ∧ Tiled 0 "1.5.2 1e**".toList tokens) ∧
    (∃ before c after tokens, "1..5é+".toList = before ++ c :: after ∧
      Text.byteLength before = 4 ∧ tokenize before = .ok tokens ∧
      ∀ piece meaning, piece <+: c :: after → ¬Lexeme.Belongs piece meaning) ∧
    Binary64.read? ['1', '.'] = some .one := by
  have accepted : tokenize "1.5.2 1e**".toList = .ok
      [⟨.number ((⟨15, -1⟩ : Decimal).toBinary64 false), 0⟩,
        ⟨.number ((⟨2, -1⟩ : Decimal).toBinary64 false), 3⟩, ⟨.number .one, 6⟩,
        ⟨.name ['e'], 7⟩, ⟨.doubleStar, 8⟩] := by decide +kernel
  have refused : tokenize "1..5é+".toList = .error (.unexpectedCharacter 'é' 4) := by
    decide +kernel
  have digit : Decimal.Digits ['1'] := List.forall_mem_singleton.mpr rfl
  have numeral : Decimal.Numeral ['1', '.'] ⟨1, 0⟩ :=
    .pointed digit (List.forall_mem_nil _) (.inl (List.cons_ne_nil _ _)) .none
  refine ⟨⟨_, accepted, rfl, ((tokenize_tiles _).1 _).mp accepted⟩, ?_, ?_⟩
  · obtain ⟨before, c, after, tokens, split, place, tokenized, none, _⟩ :=
      (tokenize_tiles _).2.2.1 _ refused
    exact ⟨before, c, after, tokens, split, (ExpressionError.unexpectedCharacter.inj place).2.symm,
      tokenized, none⟩
  · rw [(tokenize_tiles []).2.2.2 _ _ numeral]
    decide +kernel

end DiagramScript
