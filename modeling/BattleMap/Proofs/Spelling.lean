import Mathlib.Data.List.Nodup
import BattleMap.Document.Reading

namespace BattleMap

/-!
# How statements are spelled

The reader of forms looks at one token at a time.  What it accepts is said here
without a cursor: a statement has one spelling, a list of words, commas and
numbers, and the reader yields the statement exactly on the tokens that write
this spelling.

Two facts about the grammar are used on the way.  The words that can stand at one
place are different, so the first choice that fits is the only one.  And every
statement that the grammar can yield is spelled in one way only, so the spelling
can be given as a function of the statement.
-/

/-- A part of a spelling. -/
inductive Part where
  | word (text : String)
  | comma
  | whole (n : Int)
  | fraction (x : Float)

namespace Token

/-- A number without a point. -/
def IsInteger (token : Token) : Prop :=
  token.kind = .number ∧ '.' ∉ token.text

/-- A token has at most as many digits as the reader takes for an integer. -/
def Fits (token : Token) : Prop :=
  token.IsInteger -> token.text.length ≤ Decimal.mostDigits

/-- A token is the given part in writing. -/
def Writes (token : Token) : Part -> Prop
  | .word text => token.kind = .word ∧ token.text = text.toList
  | .comma => token.kind = .comma
  | .whole n => token.IsInteger ∧ n = Decimal.value token.text
  | .fraction x => token.kind = .number ∧ x = Decimal.readPlain token.text

theorem isWord_iff {token : Token} {word : String} :
    token.isWord word = true ↔ token.Writes (.word word) := by
  unfold isWord
  rw [Bool.and_eq_true, decide_eq_true_iff, decide_eq_true_iff]
  rfl

theorem isInteger_iff {token : Token} :
    (token.kind = .number && !token.text.contains '.') = true ↔ token.IsInteger := by
  simp [IsInteger]

theorem word_unique {token : Token} {first second : String} (writesFirst : token.Writes (.word first))
    (writesSecond : token.Writes (.word second)) : first = second :=
  String.toList_injective (writesFirst.2.symm.trans writesSecond.2)

end Token

namespace Form

/-- The parts that a form consists of when it has the given value. -/
def Spells {α : Type} : Form α -> List Part -> α -> Prop
  | .done value, parts, result => parts = [] ∧ result = value
  | .comma next, parts, result =>
      Exists fun rest => parts = .comma :: rest ∧ next.Spells rest result
  | .whole next, parts, result =>
      Exists fun n => Exists fun rest => parts = .whole n :: rest ∧ (next n).Spells rest result
  | .fraction next, parts, result =>
      Exists fun x => Exists fun rest => parts = .fraction x :: rest ∧ (next x).Spells rest result
  | .word _ choices next, parts, result =>
      Exists fun choice => choice ∈ choices ∧
        Exists fun rest => parts = .word choice.1 :: rest ∧ (next choice.2).Spells rest result

/-- At no place of a form the same word is listed twice. -/
def IsClear {α : Type} : Form α -> Prop
  | .done _ => True
  | .comma next => next.IsClear
  | .whole next => forall n, (next n).IsClear
  | .fraction next => forall x, (next x).IsClear
  | .word _ choices next => (choices.map Prod.fst).Nodup ∧
      forall choice, choice ∈ choices -> (next choice.2).IsClear

variable {α : Type}

/-- What is read was written. -/
theorem exists_spells_of_read {form : Form α} {cursor : Cursor} {value : α}
    (result : form.read cursor = .ok value) :
    Exists fun parts => form.Spells parts value ∧ cursor.tokens.Forall₂ Token.Writes parts := by
  induction form generalizing cursor with
  | done item =>
      unfold read at result
      split at result
      · cases result
        exact ⟨[], ⟨rfl, rfl⟩, List.isEmpty_iff.mp ‹_› ▸ .nil⟩
      · cases result
  | comma next later =>
      unfold read at result
      split at result
      · split at result
        · rename_i token rest tokens isComma
          rcases later result with ⟨parts, spelled, written⟩
          exact ⟨.comma :: parts, ⟨parts, rfl, spelled⟩, tokens ▸ .cons isComma written⟩
        · cases result
      · cases result
  | whole next later =>
      unfold read at result
      split at result
      · split at result
        · split at result
          · cases result
          · rename_i token rest tokens isInteger _
            rcases later _ result with ⟨parts, spelled, written⟩
            exact ⟨.whole _ :: parts, ⟨_, parts, rfl, spelled⟩,
              tokens ▸ .cons ⟨Token.isInteger_iff.mp isInteger, rfl⟩ written⟩
        · cases result
      · cases result
  | fraction next later =>
      unfold read at result
      split at result
      · split at result
        · rename_i token rest tokens isNumber
          rcases later _ result with ⟨parts, spelled, written⟩
          exact ⟨.fraction _ :: parts, ⟨_, parts, rfl, spelled⟩,
            tokens ▸ .cons ⟨isNumber, rfl⟩ written⟩
        · cases result
      · cases result
  | word expected choices next later =>
      unfold read at result
      split at result
      · split at result
        · rename_i token rest tokens _ choice found
          rcases later _ result with ⟨parts, spelled, written⟩
          have isWord : token.isWord choice.1 = true := by simpa using List.find?_some found
          exact ⟨.word choice.1 :: parts,
            ⟨choice, List.mem_of_find?_eq_some found, parts, rfl, spelled⟩,
            tokens ▸ .cons (Token.isWord_iff.mp isWord) written⟩
        · cases result
      · cases result

/-- Among different words, the one that a token writes is found. -/
theorem find?_isWord {β : Type} {choices : List (String × β)} {choice : String × β} {token : Token}
    (distinct : (choices.map Prod.fst).Nodup) (listed : choice ∈ choices)
    (written : token.Writes (.word choice.1)) :
    choices.find? (fun other => token.isWord other.1) = some choice := by
  have isFound : (choices.find? fun other => token.isWord other.1).isSome = true :=
    List.find?_isSome.mpr ⟨choice, listed, Token.isWord_iff.mpr written⟩
  rcases Option.isSome_iff_exists.mp isFound with ⟨other, found⟩
  have isWord : token.isWord other.1 = true := by simpa using List.find?_some found
  have sameWord : other.1 = choice.1 := Token.word_unique (Token.isWord_iff.mp isWord) written
  rw [found, List.inj_on_of_nodup_map distinct (List.mem_of_find?_eq_some found) listed sameWord]

/-- What is written is read, as long as no integer has too many digits. -/
theorem read_of_spells {form : Form α} {cursor : Cursor} {parts : List Part} {value : α}
    (clear : form.IsClear) (spelled : form.Spells parts value)
    (written : cursor.tokens.Forall₂ Token.Writes parts)
    (fits : forall token, token ∈ cursor.tokens -> token.Fits) :
    form.read cursor = .ok value := by
  rcases cursor with ⟨line, endColumn, tokens⟩
  dsimp only at written fits
  induction form generalizing tokens parts with
  | done item =>
      rcases spelled with ⟨rfl, rfl⟩
      cases written
      rfl
  | comma next later =>
      rcases spelled with ⟨rest, rfl, spelled⟩
      rcases written with _ | ⟨isComma, written⟩
      unfold read
      refine (if_pos isComma).trans ?_
      exact later clear spelled _ written fun token member => fits token (List.mem_cons_of_mem _ member)
  | whole next later =>
      rcases spelled with ⟨n, rest, rfl, spelled⟩
      rcases written with _ | ⟨⟨isInteger, rfl⟩, written⟩
      unfold read
      dsimp only
      rw [if_pos (Token.isInteger_iff.mpr isInteger),
        if_neg (Nat.not_lt.mpr (fits _ List.mem_cons_self isInteger))]
      exact later _ (clear _) spelled _ written fun token member =>
        fits token (List.mem_cons_of_mem _ member)
  | fraction next later =>
      rcases spelled with ⟨x, rest, rfl, spelled⟩
      rcases written with _ | ⟨⟨isNumber, rfl⟩, written⟩
      unfold read
      dsimp only
      rw [if_pos isNumber]
      exact later _ (clear _) spelled _ written fun token member =>
        fits token (List.mem_cons_of_mem _ member)
  | word expected choices next later =>
      rcases spelled with ⟨choice, listed, rest, rfl, spelled⟩
      rcases written with _ | ⟨isWord, written⟩
      unfold read
      dsimp only
      rw [find?_isWord clear.1 listed isWord]
      exact later _ (clear.2 choice listed) spelled _ written fun token member =>
        fits token (List.mem_cons_of_mem _ member)

end Form

/-! ## Spellings of the grammar -/

/-- Two coordinates with a comma between them. -/
def pairSpelling (x y : Int) : List Part :=
  [.whole x, .comma, .whole y]

/-- A rectangle, after the word that names it. -/
def Rectangle.spelling (area : Rectangle) : List Part :=
  .word "at" :: pairSpelling area.x area.y ++
    [.word "width", .whole area.width, .word "height", .whole area.height]

def Stamp.spelling (stamp : Stamp) : List Part :=
  match stamp.mode with
  | .fill => .word "rect" :: stamp.area.spelling
  | .turn => .word "xor" :: .word "rect" :: stamp.area.spelling

def SideLine.spelling (line : SideLine) : List Part :=
  [.word "line", .word "along", .word line.side.word, .word "from"] ++
    pairSpelling line.x line.y ++ [.word "length", .whole line.length]

/-- The spelling of a circle.  A radius is read as a fraction, so that a circle
with a whole radius has no spelling. -/
def Circle.spelling? : Circle -> Option (List Part)
  | .within x y => some ([.word "entity", .word "circle", .word "within"] ++ pairSpelling x y)
  | .around x y (.fraction radius) =>
      some ([.word "entity", .word "circle", .word "at"] ++ pairSpelling x y ++
        [.word "radius", .fraction radius])
  | .around _ _ (.whole _) => none

theorem Circle.opening_of_spelling? {circle : Circle} {parts : List Part}
    (spelled : circle.spelling? = some parts) :
    Exists fun rest => parts = .word "entity" :: .word "circle" :: rest := by
  rcases circle with ⟨x, y⟩ | ⟨x, y, whole | radius⟩ <;> cases spelled <;> exact ⟨_, rfl⟩

def CellSquare.spelling (square : CellSquare) : List Part :=
  [.word "entity", .word "square", .word "within"] ++ pairSpelling square.x square.y

def Statement.spelling? : Statement -> Option (List Part)
  | .stamp item => some item.spelling
  | .line item => some item.spelling
  | .circle item => item.spelling?
  | .square item => some item.spelling

def GridSize.spelling (size : GridSize) : List Part :=
  .word "grid" :: pairSpelling size.width size.height

namespace Form

variable {α : Type}

theorem spells_done {item : α} {parts : List Part} {value : α} :
    (done item).Spells parts value ↔ parts = [] ∧ value = item := .rfl

theorem spells_whole {next : Int -> Form α} {parts : List Part} {value : α} :
    (whole next).Spells parts value ↔ Exists fun n => Exists fun rest =>
      parts = .whole n :: rest ∧ (next n).Spells rest value := .rfl

theorem spells_fraction {next : Float -> Form α} {parts : List Part} {value : α} :
    (fraction next).Spells parts value ↔ Exists fun x => Exists fun rest =>
      parts = .fraction x :: rest ∧ (next x).Spells rest value := .rfl

theorem spells_word_nil {β : Type} {expected : String} {next : β -> Form α} {parts : List Part}
    {value : α} : ¬ (word expected [] next).Spells parts value := by
  rintro ⟨_, listed, _⟩
  cases listed

/-- Words that can stand at one place give one case each. -/
theorem spells_word_cons {β : Type} {expected : String} {first : String × β}
    {choices : List (String × β)} {next : β -> Form α} {parts : List Part} {value : α} :
    (word expected (first :: choices) next).Spells parts value ↔
      (Exists fun rest => parts = .word first.1 :: rest ∧ (next first.2).Spells rest value) ∨
        (word expected choices next).Spells parts value := by
  constructor
  · rintro ⟨choice, listed, spelled⟩
    rcases List.mem_cons.mp listed with rfl | listed
    · exact .inl spelled
    · exact .inr ⟨choice, listed, spelled⟩
  · rintro (spelled | ⟨choice, listed, spelled⟩)
    · exact ⟨first, List.mem_cons_self, spelled⟩
    · exact ⟨choice, List.mem_cons_of_mem _ listed, spelled⟩

theorem spells_keyword {word : String} {next : Form α} {parts : List Part} {value : α} :
    (keyword word next).Spells parts value ↔
      Exists fun rest => parts = .word word :: rest ∧ next.Spells rest value := by
  simp only [keyword, spells_word_cons, spells_word_nil, or_false]

theorem spells_pair {next : Int -> Int -> Form α} {parts : List Part} {value : α} :
    (pair next).Spells parts value ↔ Exists fun x => Exists fun y => Exists fun rest =>
      parts = pairSpelling x y ++ rest ∧ (next x y).Spells rest value := by
  constructor
  · rintro ⟨x, _, rfl, _, rfl, y, rest, rfl, spelled⟩
    exact ⟨x, y, rest, rfl, spelled⟩
  · rintro ⟨x, y, rest, rfl, spelled⟩
    exact ⟨x, _, rfl, _, rfl, y, rest, rfl, spelled⟩

theorem isClear_keyword {word : String} {next : Form α} (clear : next.IsClear) :
    (keyword word next).IsClear :=
  ⟨List.nodup_singleton _, fun _ _ => clear⟩

theorem isClear_pair {next : Int -> Int -> Form α} (clear : forall x y, (next x y).IsClear) :
    (pair next).IsClear :=
  clear

end Form

namespace Grammar

open Form

variable {parts : List Part} {statement : Statement}

theorem spells_rectangle {mode : StampMode} :
    (rectangle mode).Spells parts statement ↔
      Exists fun area => statement = .stamp ⟨mode, area⟩ ∧ parts = area.spelling := by
  simp only [rectangle, spells_keyword, spells_pair, spells_whole, spells_done]
  constructor
  · rintro ⟨_, rfl, x, y, _, rfl, _, rfl, width, _, rfl, _, rfl, height, _, rfl, rfl, rfl⟩
    exact ⟨⟨x, y, width, height⟩, rfl, rfl⟩
  · rintro ⟨⟨x, y, width, height⟩, rfl, rfl⟩
    exact ⟨_, rfl, x, y, _, rfl, _, rfl, width, _, rfl, _, rfl, height, _, rfl, rfl, rfl⟩

theorem mem_sides_iff {choice : String × Side} :
    choice ∈ sides ↔ choice = (choice.2.word, choice.2) := by
  rcases choice with ⟨word, side⟩
  cases side <;> simp [sides, Side.word]

/-- A word that names a side is its name. -/
theorem spells_side {next : Side -> Form Statement} {expected : String} :
    (word expected sides next).Spells parts statement ↔ Exists fun side => Exists fun rest =>
      parts = .word side.word :: rest ∧ (next side).Spells rest statement := by
  constructor
  · rintro ⟨choice, listed, spelled⟩
    rw [mem_sides_iff.mp listed] at spelled
    exact ⟨choice.2, spelled⟩
  · rintro ⟨side, spelled⟩
    exact ⟨(side.word, side), mem_sides_iff.mpr rfl, spelled⟩

theorem spells_sideLine :
    sideLine.Spells parts statement ↔
      Exists fun line => statement = .line line ∧ .word "line" :: parts = line.spelling := by
  simp only [sideLine, spells_keyword, spells_side, spells_pair, spells_whole, spells_done]
  constructor
  · rintro ⟨_, rfl, side, _, rfl, _, rfl, x, y, _, rfl, _, rfl, length, _, rfl, rfl, rfl⟩
    exact ⟨⟨side, x, y, length⟩, rfl, rfl⟩
  · rintro ⟨⟨side, x, y, length⟩, rfl, same⟩
    cases same
    exact ⟨_, rfl, side, _, rfl, _, rfl, x, y, _, rfl, _, rfl, length, _, rfl, rfl, rfl⟩

theorem spells_circle :
    circle.Spells parts statement ↔
      Exists fun item => statement = .circle item ∧
        item.spelling? = some (.word "entity" :: .word "circle" :: parts) := by
  simp only [circle, spells_word_cons, spells_word_nil, or_false, spells_keyword, spells_pair,
    spells_fraction, spells_done]
  constructor
  · rintro (⟨_, rfl, x, y, _, rfl, rfl, rfl⟩ | ⟨_, rfl, x, y, _, rfl, _, rfl, radius, _, rfl, rfl, rfl⟩)
    · exact ⟨.within x y, rfl, rfl⟩
    · exact ⟨.around x y (.fraction radius), rfl, rfl⟩
  · rintro ⟨item, rfl, spelled⟩
    rcases item with ⟨x, y⟩ | ⟨x, y, whole | radius⟩
    · cases spelled
      exact .inl ⟨_, rfl, x, y, _, rfl, rfl, rfl⟩
    · cases spelled
    · cases spelled
      exact .inr ⟨_, rfl, x, y, _, rfl, _, rfl, radius, _, rfl, rfl, rfl⟩

theorem spells_square :
    square.Spells parts statement ↔
      Exists fun item => statement = .square item ∧
        .word "entity" :: .word "square" :: parts = item.spelling := by
  simp only [square, spells_keyword, spells_pair, spells_done]
  constructor
  · rintro ⟨_, rfl, x, y, _, rfl, rfl, rfl⟩
    exact ⟨⟨x, y⟩, rfl, rfl⟩
  · rintro ⟨⟨x, y⟩, rfl, same⟩
    cases same
    exact ⟨_, rfl, x, y, _, rfl, rfl, rfl⟩

/-- The grammar yields a statement on its spelling and on nothing else. -/
theorem spells_statement_iff :
    Grammar.statement.Spells parts statement ↔ statement.spelling? = some parts := by
  simp only [Grammar.statement, entity, spells_word_cons, spells_word_nil, or_false, spells_keyword,
    spells_rectangle, spells_sideLine, spells_circle, spells_square]
  constructor
  · rintro (⟨_, rfl, area, rfl, rfl⟩ | ⟨_, rfl, _, rfl, area, rfl, rfl⟩ | ⟨_, rfl, line, rfl, same⟩ |
      ⟨_, rfl, ⟨_, rfl, item, rfl, same⟩ | ⟨_, rfl, item, rfl, same⟩⟩)
    · rfl
    · rfl
    · exact congrArg some same.symm
    · exact same
    · exact congrArg some same.symm
  · intro spelled
    rcases statement with ⟨⟨mode | mode, area⟩⟩ | line | item | item
    · cases spelled
      exact .inl ⟨_, rfl, area, rfl, rfl⟩
    · cases spelled
      exact .inr (.inl ⟨_, rfl, _, rfl, area, rfl, rfl⟩)
    · cases spelled
      exact .inr (.inr (.inl ⟨_, rfl, line, rfl, rfl⟩))
    · rcases Circle.opening_of_spelling? spelled with ⟨rest, rfl⟩
      exact .inr (.inr (.inr ⟨_, rfl, .inl ⟨_, rfl, item, rfl, spelled⟩⟩))
    · cases spelled
      exact .inr (.inr (.inr ⟨_, rfl, .inr ⟨_, rfl, item, rfl, rfl⟩⟩))

theorem spells_grid_iff {size : GridSize} : grid.Spells parts size ↔ parts = size.spelling := by
  simp only [grid, spells_keyword, spells_pair, spells_done]
  constructor
  · rintro ⟨_, rfl, width, height, _, rfl, rfl, rfl⟩
    rfl
  · rintro rfl
    exact ⟨_, rfl, size.width, size.height, _, rfl, rfl, rfl⟩

theorem isClear_rectangle (mode : StampMode) : (rectangle mode).IsClear := by
  apply isClear_keyword
  apply isClear_pair
  intro x y
  apply isClear_keyword
  intro width
  apply isClear_keyword
  intro height
  trivial

theorem isClear_sideLine : sideLine.IsClear := by
  apply isClear_keyword
  refine ⟨by decide, fun side _ => ?_⟩
  apply isClear_keyword
  apply isClear_pair
  intro x y
  apply isClear_keyword
  intro length
  trivial

theorem isClear_circle : circle.IsClear := by
  refine ⟨by decide, fun centre _ => ?_⟩
  apply isClear_pair
  intro x y
  cases centre.2 with
  | cell => trivial
  | point =>
      apply isClear_keyword
      intro radius
      trivial

theorem isClear_square : square.IsClear := by
  apply isClear_keyword
  apply isClear_pair
  intro x y
  trivial

theorem isClear_statement : Grammar.statement.IsClear := by
  refine ⟨by decide, fun opening _ => ?_⟩
  cases opening.2 with
  | rect => exact isClear_rectangle .fill
  | xor => exact isClear_keyword (isClear_rectangle .turn)
  | line => exact isClear_sideLine
  | entity =>
      refine ⟨by decide, fun shape _ => ?_⟩
      cases shape.2 with
      | circle => exact isClear_circle
      | square => exact isClear_square

theorem isClear_grid : grid.IsClear := by
  apply isClear_keyword
  apply isClear_pair
  intro width height
  trivial

variable (cursor : Cursor)

/-- A statement is read from exactly the tokens that write its spelling. -/
theorem read_statement_iff (fits : forall token, token ∈ cursor.tokens -> token.Fits) :
    Grammar.statement.read cursor = .ok statement ↔ Exists fun parts =>
      statement.spelling? = some parts ∧ cursor.tokens.Forall₂ Token.Writes parts := by
  constructor
  · intro result
    rcases exists_spells_of_read result with ⟨parts, spelled, written⟩
    exact ⟨parts, spells_statement_iff.mp spelled, written⟩
  · rintro ⟨parts, spelled, written⟩
    exact read_of_spells isClear_statement (spells_statement_iff.mpr spelled) written fits

/-- A grid declaration is read from exactly the tokens that write its spelling. -/
theorem read_grid_iff {size : GridSize} (fits : forall token, token ∈ cursor.tokens -> token.Fits) :
    grid.read cursor = .ok size ↔ cursor.tokens.Forall₂ Token.Writes size.spelling := by
  constructor
  · intro result
    rcases exists_spells_of_read result with ⟨parts, spelled, written⟩
    exact spells_grid_iff.mp spelled ▸ written
  · intro written
    exact read_of_spells isClear_grid (spells_grid_iff.mpr rfl) written fits

/-- No statement starts as a grid declaration does. -/
theorem head_spelling?_ne_grid {head : Token} {others : List Token}
    (spelled : statement.spelling? = some parts)
    (written : (head :: others).Forall₂ Token.Writes parts) : head.isWord "grid" = false := by
  rw [Bool.eq_false_iff]
  intro isGrid
  have starts : Exists fun word => Exists fun rest => parts = .word word :: rest ∧ word ≠ "grid" := by
    rcases statement with ⟨⟨mode | mode, area⟩⟩ | line | item | item
    · exact ⟨"rect", _, (Option.some.inj spelled).symm, by decide⟩
    · exact ⟨"xor", _, (Option.some.inj spelled).symm, by decide⟩
    · exact ⟨"line", _, (Option.some.inj spelled).symm, by decide⟩
    · rcases Circle.opening_of_spelling? spelled with ⟨rest, rfl⟩
      exact ⟨"entity", _, rfl, by decide⟩
    · exact ⟨"entity", _, (Option.some.inj spelled).symm, by decide⟩
  rcases starts with ⟨word, rest, rfl, different⟩
  rcases written with _ | ⟨isWord, _⟩
  exact different (Token.word_unique isWord (Token.isWord_iff.mp isGrid))

end Grammar
end BattleMap
