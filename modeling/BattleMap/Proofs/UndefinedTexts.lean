import BattleMap.Proofs.DefinedNumbers
import BattleMap.Proofs.Tokenization

namespace BattleMap
namespace Decimal
namespace FreeForm

/-!
# Texts that denote no value

The command line takes a word for an undefined number.  Nothing else denotes one, since
digits and the words for infinity have values.  The word is found in a text of the basic
alphabet as it stands; in any other text the blanks of other scripts around it are
exchanged first, and its letters stay what they are.
-/

/-- A blank of any script. -/
def isBlank (c : Char) : Bool :=
  Text.isPlainBlank c || Text.isWideBlank c

/-- The word for an undefined number, in small or capital letters, possibly behind a sign. -/
def IsUndefinedWord (text : List Char) : Prop :=
  (sign text).2.map Char.toLower = ['n', 'a', 'n']

/-- The text consists of the word for an undefined number and of blanks around it. -/
def SaysUndefined (text : List Char) : Prop :=
  Exists fun front => Exists fun word => Exists fun back => text = front ++ (word ++ back) ∧
    IsUndefinedWord word ∧ forall c, c ∈ front ++ back -> isBlank c = true

/-! ## Letters and signs -/

/-- A letter of the basic alphabet or a sign. -/
def IsLetter (c : Char) : Prop :=
  c.isAlpha = true ∨ c = '+' ∨ c = '-'

theorem isAlpha_of_toLower {c : Char} (letter : c.toLower.isAlpha = true) : c.isAlpha = true := by
  unfold Char.toLower at letter
  split at letter
  · rename_i capital
    exact Bool.or_eq_true_iff.mpr (.inl (decide_eq_true capital))
  · exact letter

theorem isAlpha_of_map_toLower {text : List Char} (word : text.map Char.toLower = ['n', 'a', 'n'])
    {c : Char} (member : c ∈ text) : c.isAlpha = true := by
  have lower : c.toLower ∈ ['n', 'a', 'n'] := word ▸ List.mem_map_of_mem member
  have letters : ['n', 'a', 'n'].all Char.isAlpha = true := rfl
  exact isAlpha_of_toLower (List.all_eq_true.mp letters _ lower)

/-- Only a sign is taken off the front of a text. -/
theorem mem_sign {text : List Char} {c : Char} (member : c ∈ text) :
    c ∈ (sign text).2 ∨ c = '+' ∨ c = '-' := by
  unfold sign
  split
  · exact (List.mem_cons.mp member).elim (fun minus => .inr (.inr minus)) .inl
  · exact (List.mem_cons.mp member).elim (fun plus => .inr (.inl plus)) .inl
  · exact .inl member

theorem isLetter_of_isUndefinedWord {text : List Char} (word : IsUndefinedWord text) {c : Char}
    (member : c ∈ text) : IsLetter c :=
  (mem_sign member).imp_left (isAlpha_of_map_toLower word)

namespace IsLetter

variable {c : Char}

theorem not_isDigit (letter : IsLetter c) : c.isDigit = false := by
  rcases letter with alpha | rfl | rfl
  · exact Bool.eq_false_iff.mpr fun digit =>
      Bool.false_ne_true ((Token.isAlpha_of_isDigit digit).symm.trans alpha)
  · rfl
  · rfl

theorem not_isPlainBlank (letter : IsLetter c) : Text.isPlainBlank c = false := by
  refine Bool.eq_false_iff.mpr fun blank => ?_
  simp only [Text.isPlainBlank, Bool.or_eq_true, decide_eq_true_eq] at blank
  rcases letter with alpha | rfl | rfl
  · rcases blank with ((((rfl | rfl) | rfl) | rfl) | rfl) | rfl <;> cases alpha
  · revert blank
    decide
  · revert blank
    decide

theorem ne_underscore (letter : IsLetter c) : c ≠ '_' := by
  rintro rfl
  rcases letter with alpha | same | same
  · cases alpha
  · cases same
  · cases same

theorem toNat_lt (letter : IsLetter c) : c.toNat < 127 := by
  rcases letter with alpha | rfl | rfl
  · have small : c.val < 127 := by
      rcases Bool.or_eq_true_iff.mp alpha with upper | lower
      · exact UInt32.lt_of_le_of_lt (of_decide_eq_true upper).2 (by decide)
      · exact UInt32.lt_of_le_of_lt (of_decide_eq_true (Bool.and_eq_true_iff.mp lower).2) (by decide)
    exact UInt32.lt_iff_toNat_lt.mp small
  · decide
  · decide

end IsLetter

/-! ## Other scripts -/

/-- A text in the basic alphabet; one of other scripts is brought there. -/
def plainText? (text : List Char) : Option (List Char) :=
  if text.all (·.toNat < 128) then some text else text.mapM plainChar?

/-- A character as it reads in the basic alphabet: a blank of another script is a blank
there, and every other character stays what it is or becomes a digit. -/
def Reads (c plain : Char) : Prop :=
  plain = c ∨ Text.isWideBlank c = true ∧ plain = ' ' ∨ plain.isDigit = true

theorem isDigit_ofNat {n : Nat} (small : n < 10) : (Char.ofNat (48 + n)).isDigit = true := by
  revert n
  decide

theorem digitValue?_lt {c : Char} {n : Nat} (value : Text.digitValue? c = some n) : n < 10 := by
  unfold Text.digitValue? at value
  rcases Option.map_eq_some_iff.mp value with ⟨first, found, rfl⟩
  have within := Array.find?_some found
  rw [Bool.and_eq_true, decide_eq_true_iff, decide_eq_true_iff] at within
  omega

theorem reads_plainChar? {c plain : Char} (found : plainChar? c = some plain) : Reads c plain := by
  unfold plainChar? at found
  split_ifs at found with small wide
  · exact .inl (Option.some_inj.mp found).symm
  · exact .inr (.inl ⟨wide, (Option.some_inj.mp found).symm⟩)
  · rcases Option.map_eq_some_iff.mp found with ⟨n, value, rfl⟩
    exact .inr (.inr (isDigit_ofNat (digitValue?_lt value)))

theorem eq_map_of_mapM {f : Char -> Option Char} {text plain : List Char}
    (found : text.mapM f = some plain) : plain = text.map fun c => (f c).getD c := by
  induction text generalizing plain with
  | nil => exact (Option.some_inj.mp found).symm
  | cons c rest later =>
      rw [List.mapM_cons, Option.bind_eq_bind, Option.bind_eq_some_iff] at found
      rcases found with ⟨first, here, found⟩
      rcases Option.bind_eq_some_iff.mp found with ⟨others, behind, same⟩
      rw [List.map_cons, here, ← later behind]
      exact (Option.some_inj.mp same).symm

theorem exists_map_of_plainText? {text plain : List Char} (found : plainText? text = some plain) :
    Exists fun f : Char -> Char => plain = text.map f ∧ forall c, Reads c (f c) := by
  unfold plainText? at found
  split_ifs at found
  · exact ⟨id, (Option.some_inj.mp found).symm.trans (List.map_id text).symm, fun _ => .inl rfl⟩
  · refine ⟨_, eq_map_of_mapM found, fun c => ?_⟩
    cases value : plainChar? c with
    | none => exact .inl rfl
    | some plain => exact reads_plainChar? value

/-- What reads as a blank is one. -/
theorem Reads.isBlank {c plain : Char} (reads : Reads c plain)
    (blank : Text.isPlainBlank plain = true) : isBlank c = true := by
  rcases reads with rfl | ⟨wide, _⟩ | digit
  · exact Bool.or_eq_true_iff.mpr (.inl blank)
  · exact Bool.or_eq_true_iff.mpr (.inr wide)
  · simp only [Text.isPlainBlank, Bool.or_eq_true, decide_eq_true_eq] at blank
    rcases blank with ((((rfl | rfl) | rfl) | rfl) | rfl) | rfl <;> cases digit

/-- What reads as a letter is that letter. -/
theorem Reads.eq_of_isLetter {c plain : Char} (reads : Reads c plain) (letter : IsLetter plain) :
    plain = c := by
  rcases reads with same | ⟨_, rfl⟩ | digit
  · exact same
  · cases letter.not_isPlainBlank
  · exact absurd (letter.not_isDigit.symm.trans digit) Bool.false_ne_true

/-- A blank of another script in the basic alphabet. -/
def plainBlank (c : Char) : Char :=
  if Text.isWideBlank c then ' ' else c

theorem le_toNat_of_isWideBlank {c : Char} (wide : Text.isWideBlank c = true) : 128 ≤ c.toNat := by
  simp only [Text.isWideBlank, Bool.or_eq_true, Bool.and_eq_true, decide_eq_true_eq] at wide
  rcases wide with (((((((rfl | rfl) | rfl) | range) | rfl) | rfl) | rfl) | rfl) | rfl
  all_goals first | decide | exact Nat.le_trans (by decide) range.1

theorem plainBlank_of_lt {c : Char} (small : c.toNat < 128) : plainBlank c = c :=
  if_neg fun wide => Nat.not_lt.mpr (le_toNat_of_isWideBlank wide) small

theorem toNat_lt_of_isPlainBlank {c : Char} (blank : Text.isPlainBlank c = true) :
    c.toNat < 127 := by
  simp only [Text.isPlainBlank, Bool.or_eq_true, decide_eq_true_eq] at blank
  rcases blank with ((((rfl | rfl) | rfl) | rfl) | rfl) | rfl <;> decide

theorem isPlainBlank_plainBlank {c : Char} (blank : isBlank c = true) :
    Text.isPlainBlank (plainBlank c) = true := by
  unfold plainBlank
  split_ifs with wide
  · decide
  · exact (Bool.or_eq_true_iff.mp blank).resolve_right wide

theorem plainChar?_eq {c : Char} (known : IsLetter c ∨ isBlank c = true) :
    plainChar? c = some (plainBlank c) := by
  unfold plainChar?
  by_cases small : c.toNat < 127
  · rw [if_pos small, plainBlank_of_lt (Nat.lt_succ_of_lt small)]
  · have wide : Text.isWideBlank c = true := by
      rcases known with letter | blank
      · exact absurd letter.toNat_lt small
      · exact (Bool.or_eq_true_iff.mp blank).resolve_left fun blank =>
          small (toNat_lt_of_isPlainBlank blank)
    unfold plainBlank
    rw [if_neg small, if_pos wide, if_pos wide]

theorem mapM_plainChar?_eq {text : List Char}
    (known : forall c, c ∈ text -> IsLetter c ∨ isBlank c = true) :
    text.mapM plainChar? = some (text.map plainBlank) := by
  induction text with
  | nil => rfl
  | cons c rest later =>
      rw [List.mapM_cons, plainChar?_eq (known c List.mem_cons_self),
        later fun other member => known other (List.mem_cons_of_mem _ member)]
      rfl

/-- In a text of letters and blanks nothing but blanks is exchanged. -/
theorem plainText?_eq {text : List Char}
    (known : forall c, c ∈ text -> IsLetter c ∨ isBlank c = true) :
    plainText? text = some (text.map plainBlank) := by
  unfold plainText?
  split_ifs with small
  · rw [List.all_eq_true] at small
    rw [List.map_congr_left fun c member => plainBlank_of_lt (of_decide_eq_true (small c member)),
      List.map_id']
  · exact mapM_plainChar?_eq known

/-! ## Trimming and joining -/

theorem exists_trim (text : List Char) :
    Exists fun front => Exists fun back => text = front ++ (trim text ++ back) ∧
      forall c, c ∈ front ++ back -> Text.isPlainBlank c = true := by
  let behind := text.dropWhile Text.isPlainBlank
  refine ⟨text.takeWhile Text.isPlainBlank, (behind.reverse.takeWhile Text.isPlainBlank).reverse,
    ?_, fun c member => ?_⟩
  · unfold trim
    rw [← List.reverse_append, List.takeWhile_append_dropWhile, List.reverse_reverse,
      List.takeWhile_append_dropWhile]
  · rcases List.mem_append.mp member with before | after
    · exact List.mem_takeWhile_imp before
    · exact List.mem_takeWhile_imp (List.mem_reverse.mp after)

theorem trim_eq {front word back : List Char} (nonempty : word ≠ [])
    (blank : forall c, c ∈ front ++ back -> Text.isPlainBlank c = true)
    (other : forall c, c ∈ word -> Text.isPlainBlank c = false) :
    trim (front ++ (word ++ back)) = word := by
  have before : forall c, c ∈ front -> Text.isPlainBlank c = true :=
    fun c member => blank c (List.mem_append_left _ member)
  have after : forall c, c ∈ back.reverse -> Text.isPlainBlank c = true :=
    fun c member => blank c (List.mem_append_right _ (List.mem_reverse.mp member))
  have first : forall c, c ∈ (word ++ back).head? -> Text.isPlainBlank c = false := by
    intro c member
    rcases word with _ | ⟨d, rest⟩
    · exact absurd rfl nonempty
    · cases member
      exact other c List.mem_cons_self
  have last : forall c, c ∈ word.reverse.head? -> Text.isPlainBlank c = false :=
    fun c member => other c (List.mem_reverse.mp (List.mem_of_mem_head? member))
  unfold trim
  rw [Token.dropWhile_run before first, List.reverse_append, Token.dropWhile_run after last,
    List.reverse_reverse]

theorem joinDigits?_cons_of_ne {c : Char} (other : c ≠ '_') (before : Option Char)
    (rest : List Char) :
    joinDigits? before (c :: rest) = (joinDigits? (some c) rest).map (c :: ·) := by
  rw [joinDigits?]
  exact other

theorem joinDigits?_eq {text : List Char} (noUnderscore : forall c, c ∈ text -> c ≠ '_')
    (before : Option Char) : joinDigits? before text = some text := by
  induction text generalizing before with
  | nil => rfl
  | cons c rest later =>
      rw [joinDigits?_cons_of_ne (noUnderscore c List.mem_cons_self),
        later fun other member => noUnderscore other (List.mem_cons_of_mem _ member)]
      rfl

/-- Underscores are removed in front of digits only. -/
theorem eq_of_joinDigits? {text joined : List Char} {before : Option Char}
    (found : joinDigits? before text = some joined)
    (noDigits : forall c, c ∈ joined -> c.isDigit = false) : joined = text := by
  induction text generalizing before joined with
  | nil => exact (Option.some_inj.mp found).symm
  | cons c rest later =>
      by_cases underscore : c = '_'
      · subst underscore
        rw [joinDigits?] at found
        split_ifs at found with between
        rcases rest with _ | ⟨d, behind⟩
        · exact absurd between (by rw [List.head?_nil, Option.any_none, Bool.and_false]; decide)
        · have digit : d.isDigit = true := (Bool.and_eq_true_iff.mp between).2
          have same := later found noDigits
          exact absurd ((noDigits d (same ▸ List.mem_cons_self)).symm.trans digit)
            Bool.false_ne_true
      · rw [joinDigits?_cons_of_ne underscore] at found
        rcases Option.map_eq_some_iff.mp found with ⟨others, behind, rfl⟩
        rw [later behind fun d member => noDigits d (List.mem_cons_of_mem _ member)]

/-! ## Words -/

theorem magnitude?_eq_nan {text : List Char} (word : text.map Char.toLower = ['n', 'a', 'n']) :
    magnitude? text = some (0 / 0) := by
  unfold magnitude?
  dsimp only
  rw [word]
  rfl

theorem map_toLower_of_magnitude? {text : List Char} {x : Float} (read : magnitude? text = some x)
    (undefined : x.isNaN = true) : text.map Char.toLower = ['n', 'a', 'n'] := by
  unfold magnitude? at read
  dsimp only at read
  split_ifs at read with infinite word
  · cases read
    exact absurd undefined (by decide)
  · exact (String.toList_ofList).symm.trans (congrArg String.toList word)
  all_goals
    rcases Option.map_eq_some_iff.mp read with ⟨exponent, _, rfl⟩
    exact absurd ((Number.isNaN_nearest _ _ _).symm.trans undefined) Bool.false_ne_true

theorem read?_eq (text : List Char) :
    read? text = do
      let plain ← plainText? text
      let joined ← joinDigits? none (trim plain)
      let x ← magnitude? (sign joined).2
      return if (sign joined).1 then -x else x := by
  unfold read? plainText?
  split_ifs
  · rfl
  · rfl

theorem saysUndefined_of_read? {text : List Char} {x : Float} (read : read? text = some x)
    (undefined : x.isNaN = true) : SaysUndefined text := by
  rw [read?_eq] at read
  rcases Option.bind_eq_some_iff.mp read with ⟨plain, exchanged, read⟩
  rcases Option.bind_eq_some_iff.mp read with ⟨joined, removed, read⟩
  rcases Option.bind_eq_some_iff.mp read with ⟨y, denoted, same⟩
  have signless : y.isNaN = true := by
    rw [← Option.some_inj.mp same] at undefined
    split_ifs at undefined
    · rwa [Number.isNaN_neg] at undefined
    · exact undefined
  have word : IsUndefinedWord joined := map_toLower_of_magnitude? denoted signless
  have letters := fun c => isLetter_of_isUndefinedWord word (c := c)
  have kept := eq_of_joinDigits? removed fun c member => (letters c member).not_isDigit
  rcases exists_trim plain with ⟨front, back, whole, blank⟩
  rcases exists_map_of_plainText? exchanged with ⟨f, same, reads⟩
  rw [← kept, same] at whole
  rcases List.map_eq_append_iff.mp whole with ⟨before, others, rfl, rfl, inner⟩
  rcases List.map_eq_append_iff.mp inner with ⟨middle, after, rfl, rfl, rfl⟩
  have unchanged : middle.map f = middle.map id := List.map_congr_left fun c member =>
    (reads c).eq_of_isLetter (letters _ (List.mem_map_of_mem member))
  rw [unchanged, List.map_id] at word
  refine ⟨before, middle, after, rfl, word, fun c member => (reads c).isBlank (blank _ ?_)⟩
  rw [← List.map_append]
  exact List.mem_map_of_mem member

theorem exists_read?_of_saysUndefined {text : List Char} (spelled : SaysUndefined text) :
    Exists fun x => read? text = some x ∧ x.isNaN = true := by
  rcases spelled with ⟨front, word, back, rfl, undefined, blank⟩
  have letters := fun c => isLetter_of_isUndefinedWord undefined (c := c)
  have nonempty : word ≠ [] := by
    rintro rfl
    cases undefined
  have known : forall c, c ∈ front ++ (word ++ back) -> IsLetter c ∨ isBlank c = true := by
    intro c member
    rcases List.mem_append.mp member with before | member
    · exact .inr (blank c (List.mem_append_left _ before))
    · rcases List.mem_append.mp member with within | after
      · exact .inl (letters c within)
      · exact .inr (blank c (List.mem_append_right _ after))
  have unchanged : word.map plainBlank = word.map id := List.map_congr_left fun c member =>
    plainBlank_of_lt (Nat.lt_succ_of_lt (letters c member).toNat_lt)
  have trimmed : trim (front.map plainBlank ++ (word ++ back.map plainBlank)) = word := by
    refine trim_eq nonempty (fun c member => ?_) fun c member => (letters c member).not_isPlainBlank
    rw [← List.map_append] at member
    rcases List.mem_map.mp member with ⟨d, listed, rfl⟩
    exact isPlainBlank_plainBlank (blank d listed)
  rw [read?_eq, plainText?_eq known, List.map_append, List.map_append, unchanged,
    List.map_id]
  change Exists fun x => ((joinDigits? none (trim (front.map plainBlank ++
    (word ++ back.map plainBlank)))).bind fun joined => (magnitude? (sign joined).2).bind fun x =>
      some (if (sign joined).1 then -x else x)) = some x ∧ x.isNaN = true
  rw [trimmed, joinDigits?_eq fun c member => (letters c member).ne_underscore, Option.bind_some,
    magnitude?_eq_nan undefined, Option.bind_some]
  refine ⟨_, rfl, ?_⟩
  split_ifs
  · decide
  · decide

/-- A text denotes an undefined number if and only if it is the word for one. -/
theorem isNaN_read?_iff {text : List Char} :
    (Exists fun x => read? text = some x ∧ x.isNaN = true) ↔ SaysUndefined text := by
  constructor
  · rintro ⟨x, read, undefined⟩
    exact saysUndefined_of_read? read undefined
  · exact exists_read?_of_saysUndefined

end FreeForm
end Decimal
end BattleMap
