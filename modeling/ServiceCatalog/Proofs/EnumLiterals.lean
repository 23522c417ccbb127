import Mathlib.Data.List.DropRight
import ServiceCatalog.Proofs.EnumMembers

/-!
# The literals of an enum

The member of an enum for a text holds the text as a literal between apostrophes, which is written
into generated code and read there.  A reader takes a backslash together with the character behind
it, and the two stand for that character; an apostrophe that is not read in this way ends the
literal, and has to be the last character.

Whether a character is read behind a backslash depends on all backslashes in front of it: it is if
their number is odd (`Escapes`).  So the places that matter are the apostrophes and the end, and
`Quotes` says of a text that all of its apostrophes are escaped, or that none is, and that its end
is not.  What stands inside a complete literal is of the first kind (`readLiteral?_eq_some_iff`).

The writer puts a backslash in front of each apostrophe and leaves backslashes as they are.  That
turns an apostrophe behind an even number of them into an escaped one, and one behind an odd number
into one that is not.  Hence the literal is complete exactly for texts of the second kind
(`quotes_quoted_iff`), and even then the backslashes of the text are read as escapes, so only texts
without backslashes are read back (`literalFor_enumTextLiteral`).
-/

namespace ServiceCatalog
namespace Naming

/-! ## Reading a literal -/

/-- What is read behind the opening apostrophe of a literal, up to the closing one at its end. -/
def content? : List Char → Option (List Char)
  | [] => none
  | '\\' :: c :: cs => (content? cs).map (c :: ·)
  | c :: cs =>
    if c = '\'' then if cs = [] then some [] else none
    else (content? cs).map (c :: ·)

/-- What a literal stands for; none if the text is not one complete literal. -/
def readLiteral? : List Char → Option (List Char)
  | '\'' :: cs => content? cs
  | _ => none

/-- A text with each escape replaced by the character that it stands for. -/
def unescaped : List Char → List Char
  | [] => []
  | ['\\'] => []
  | '\\' :: c :: cs => c :: unescaped cs
  | c :: cs => c :: unescaped cs

/-- What is behind a text is escaped: an odd number of backslashes stands at the end of the text. -/
def Escapes (before : List Char) : Prop := (before.rtakeWhile (· = '\\')).length % 2 = 1

instance : DecidablePred Escapes := fun before =>
  inferInstanceAs (Decidable ((before.rtakeWhile (· = '\\')).length % 2 = 1))

/-- All apostrophes in a text are escaped, or none is; and what is behind the text is not. -/
structure Quotes (escaped : Prop) (cs : List Char) : Prop where
  ends : ¬ Escapes cs
  apostrophes : ∀ before after, cs = before ++ '\'' :: after → (Escapes before ↔ escaped)

/-- A text is one complete literal: it stands between two apostrophes, the ones inside are escaped
and the one at the end is not. -/
def IsLiteral (cs : List Char) : Prop :=
  ∃ inner, cs = '\'' :: (inner ++ ['\'']) ∧ Quotes True inner

/-- Induction along the reading: a backslash is taken together with the character behind it. -/
theorem escapeInduction {P : List Char → Prop} (nil : P []) (lone : P ['\\'])
    (escape : ∀ c cs, P cs → P ('\\' :: c :: cs))
    (plain : ∀ c cs, c ≠ '\\' → P cs → P (c :: cs)) (cs : List Char) : P cs := by
  induction cs using unescaped.induct with
  | case1 => exact nil
  | case2 => exact lone
  | case3 c cs ih => exact escape c cs ih
  | case4 c cs hlone hescape ih =>
    refine plain c cs (fun hc => ?_) ih
    cases cs with
    | nil => exact hlone hc rfl
    | cons d ds => exact hescape d ds hc rfl

section escapes

variable {c : Char} {cs : List Char} {p : Prop}

theorem not_escapes_nil : ¬ Escapes [] := by decide

theorem escapes_lone : Escapes ['\\'] := by decide

theorem not_escapes_of_notMem (h : '\\' ∉ cs) : ¬ Escapes cs := by
  have hnone : cs.rtakeWhile (· = '\\') = [] := by
    rw [List.rtakeWhile_eq_nil_iff]
    intro hne hlast
    exact h (of_decide_eq_true hlast ▸ List.getLast_mem hne)
  rw [Escapes, hnone]
  decide

/-- Another character in front changes nothing, since a run of backslashes ends at it. -/
theorem escapes_plain (h : c ≠ '\\') : Escapes (c :: cs) ↔ Escapes cs := by
  have htake : [c].takeWhile (· = '\\') = [] :=
    List.takeWhile_cons_of_neg (by rw [decide_eq_true_eq]; exact h)
  unfold Escapes List.rtakeWhile
  rw [List.reverse_cons, List.takeWhile_append, htake]
  split
  · rename_i hall
    simp only [List.append_nil, List.length_reverse, hall]
  · rfl

/-- An escape in front is no backslash at the end of the text, or two of them. -/
theorem escapes_escape : Escapes ('\\' :: c :: cs) ↔ Escapes cs := by
  unfold Escapes List.rtakeWhile
  rw [List.reverse_cons, List.reverse_cons, List.append_assoc, List.takeWhile_append]
  split
  · rename_i hall
    rw [List.length_reverse, List.length_reverse, List.length_append, hall]
    by_cases hc : c = '\\'
    · subst hc
      exact iff_of_eq (congrArg (· = 1) (Nat.add_mod_right _ 2))
    · have htake : ([c] ++ ['\\']).takeWhile (· = '\\') = [] :=
        List.takeWhile_cons_of_neg (by rw [decide_eq_true_eq]; exact hc)
      rw [htake]
      exact Iff.rfl
  · rfl

theorem quotes_nil : Quotes p [] := by
  refine ⟨not_escapes_nil, fun before after h => ?_⟩
  exact absurd h.symm (List.append_ne_nil_of_right_ne_nil before (List.cons_ne_nil _ after))

theorem not_quotes_lone : ¬ Quotes p ['\\'] := fun h => h.ends escapes_lone

theorem quotes_plain (h : c ≠ '\\') : Quotes p (c :: cs) ↔ (c = '\'' → ¬ p) ∧ Quotes p cs := by
  constructor
  · intro hquotes
    refine ⟨fun hc hp => ?_, (escapes_plain h).not.mp hquotes.ends, fun before after hcs => ?_⟩
    · exact not_escapes_nil ((hquotes.apostrophes [] cs (by rw [hc, List.nil_append])).mpr hp)
    · rw [← hquotes.apostrophes (c :: before) after (by rw [hcs, List.cons_append]),
        escapes_plain h]
  · rintro ⟨hc, hquotes⟩
    refine ⟨(escapes_plain h).not.mpr hquotes.ends, fun before after hcs => ?_⟩
    cases before with
    | nil => exact iff_of_false not_escapes_nil (hc (List.cons.inj hcs).1)
    | cons d before =>
      obtain ⟨rfl, htail⟩ := List.cons.inj hcs
      rw [escapes_plain h, hquotes.apostrophes before after htail]

theorem quotes_escape : Quotes p ('\\' :: c :: cs) ↔ (c = '\'' → p) ∧ Quotes p cs := by
  constructor
  · intro hquotes
    refine ⟨fun hc => ?_, escapes_escape.not.mp hquotes.ends, fun before after hcs => ?_⟩
    · exact (hquotes.apostrophes ['\\'] cs (by rw [hc, List.cons_append, List.nil_append])).mp
        escapes_lone
    · rw [← hquotes.apostrophes ('\\' :: c :: before) after
        (by rw [hcs, List.cons_append, List.cons_append]), escapes_escape]
  · rintro ⟨hc, hquotes⟩
    refine ⟨escapes_escape.not.mpr hquotes.ends, fun before after hcs => ?_⟩
    match before with
    | [] => exact absurd (List.cons.inj hcs).1 (by decide)
    | [d] =>
      obtain ⟨rfl, htail⟩ := List.cons.inj hcs
      exact iff_of_true escapes_lone (hc (List.cons.inj htail).1)
    | d :: e :: before =>
      obtain ⟨rfl, htail⟩ := List.cons.inj hcs
      obtain ⟨rfl, hrest⟩ := List.cons.inj htail
      rw [escapes_escape, hquotes.apostrophes before after hrest]

theorem quotes_of_notMem (h : '\\' ∉ cs) : Quotes False cs := by
  refine ⟨not_escapes_of_notMem h, fun before after hcs => ?_⟩
  rw [iff_false]
  exact not_escapes_of_notMem fun hmem => h (hcs ▸ List.mem_append_left _ hmem)

end escapes

section readings

variable {c : Char} {cs u : List Char}

theorem unescaped_escape : unescaped ('\\' :: c :: cs) = c :: unescaped cs := by
  rw [unescaped]

theorem unescaped_plain (h : c ≠ '\\') : unescaped (c :: cs) = c :: unescaped cs := by
  rw [unescaped]
  · exact fun hc => absurd hc h
  · exact fun d ds hc => absurd hc h

theorem length_unescaped_le (cs : List Char) : (unescaped cs).length ≤ cs.length := by
  induction cs using escapeInduction with
  | nil => exact Nat.le_refl _
  | lone => exact Nat.zero_le _
  | escape c cs ih =>
    rw [unescaped_escape, List.length_cons, List.length_cons, List.length_cons]
    omega
  | plain c cs h ih =>
    rw [unescaped_plain h, List.length_cons, List.length_cons]
    omega

/-- Only a text without backslashes stands for itself. -/
theorem unescaped_eq_self_iff (cs : List Char) : unescaped cs = cs ↔ '\\' ∉ cs := by
  induction cs using escapeInduction with
  | nil => exact iff_of_true rfl List.not_mem_nil
  | lone => exact iff_of_false nofun (not_not_intro List.mem_cons_self)
  | escape c cs ih =>
    refine iff_of_false (fun h => ?_) (not_not_intro List.mem_cons_self)
    have hlength := congrArg List.length h
    have hle := length_unescaped_le cs
    rw [unescaped_escape, List.length_cons, List.length_cons, List.length_cons] at hlength
    omega
  | plain c cs h ih =>
    rw [unescaped_plain h, List.cons_inj_right, ih, List.mem_cons, not_or]
    exact (and_iff_right h.symm).symm

theorem content?_escape : content? ('\\' :: c :: cs) = (content? cs).map (c :: ·) := by
  rw [content?]

theorem content?_plain (h : c ≠ '\\') : content? (c :: cs) =
    if c = '\'' then if cs = [] then some [] else none else (content? cs).map (c :: ·) := by
  rw [content?]
  exact fun d ds hc => absurd hc h

/-- Up to an apostrophe that ends the literal, all is read. -/
theorem content?_append {inner : List Char} (h : Quotes True inner) :
    content? (inner ++ ['\'']) = some (unescaped inner) := by
  induction inner using escapeInduction with
  | nil => rfl
  | lone => exact absurd h not_quotes_lone
  | escape c cs ih =>
    rw [List.cons_append, List.cons_append, content?_escape, ih (quotes_escape.mp h).2,
      unescaped_escape]
    rfl
  | plain c cs hplain ih =>
    obtain ⟨hc, hcs⟩ := (quotes_plain hplain).mp h
    rw [List.cons_append, content?_plain hplain, if_neg fun heq => hc heq trivial, ih hcs,
      unescaped_plain hplain]
    rfl

/-- What is read ends with an apostrophe, and it is the first one that is not escaped. -/
theorem exists_of_content? (h : content? cs = some u) :
    ∃ inner, cs = inner ++ ['\''] ∧ Quotes True inner := by
  induction cs using escapeInduction generalizing u with
  | nil => cases h
  | lone => cases h
  | escape c cs ih =>
    rw [content?_escape] at h
    obtain ⟨w, hw, -⟩ := Option.map_eq_some_iff.mp h
    obtain ⟨inner, rfl, hinner⟩ := ih hw
    exact ⟨'\\' :: c :: inner, rfl, quotes_escape.mpr ⟨fun _ => trivial, hinner⟩⟩
  | plain c cs hplain ih =>
    rw [content?_plain hplain] at h
    split at h
    · rename_i hc
      split at h
      · rename_i hcs
        exact ⟨[], by rw [hc, hcs, List.nil_append], quotes_nil⟩
      · cases h
    · rename_i hc
      obtain ⟨w, hw, -⟩ := Option.map_eq_some_iff.mp h
      obtain ⟨inner, rfl, hinner⟩ := ih hw
      exact ⟨c :: inner, rfl, (quotes_plain hplain).mpr ⟨fun heq => absurd heq hc, hinner⟩⟩

theorem content?_eq_some_iff : content? cs = some u ↔
    ∃ inner, cs = inner ++ ['\''] ∧ Quotes True inner ∧ u = unescaped inner := by
  constructor
  · intro h
    obtain ⟨inner, rfl, hinner⟩ := exists_of_content? h
    rw [content?_append hinner] at h
    exact ⟨inner, rfl, hinner, (Option.some.inj h).symm⟩
  · rintro ⟨inner, rfl, hinner, rfl⟩
    exact content?_append hinner

/-- **Just the complete literals are read**, and a literal stands for what is inside, without its
escapes. -/
theorem readLiteral?_eq_some_iff (cs u : List Char) : readLiteral? cs = some u ↔
    ∃ inner, cs = '\'' :: (inner ++ ['\'']) ∧ Quotes True inner ∧ u = unescaped inner := by
  unfold readLiteral?
  split
  · rename_i ds
    rw [content?_eq_some_iff]
    simp only [List.cons_inj_right]
  · rename_i hne
    refine iff_of_false nofun ?_
    rintro ⟨inner, rfl, -⟩
    exact hne _ rfl

end readings

/-! ## The literal for a text -/

/-- A text with a backslash in front of each apostrophe. -/
def quoted (cs : List Char) : List Char :=
  cs.flatMap fun c => if c = '\'' then ['\\', '\''] else [c]

section quoted

variable {c : Char} {cs : List Char}

theorem enumTextLiteral_eq (cs : List Char) :
    enumTextLiteral cs = '\'' :: (quoted cs ++ ['\'']) := rfl

theorem quoted_apostrophe : quoted ('\'' :: cs) = '\\' :: '\'' :: quoted cs := rfl

theorem quoted_cons (h : c ≠ '\'') : quoted (c :: cs) = c :: quoted cs := by
  rw [quoted, List.flatMap_cons, if_neg h]
  rfl

/-- **The writer escapes all apostrophes if none is escaped already**, and only then. -/
theorem quotes_quoted_iff (cs : List Char) : Quotes True (quoted cs) ↔ Quotes False cs := by
  induction cs using escapeInduction with
  | nil => exact iff_of_true quotes_nil quotes_nil
  | lone => exact iff_of_false not_quotes_lone not_quotes_lone
  | escape c cs ih =>
    rw [quoted_cons (by decide), quotes_escape (c := c)]
    by_cases hc : c = '\''
    · -- The new backslash is read behind the one in front, and the apostrophe ends the literal.
      subst hc
      rw [quoted_apostrophe, quotes_escape, quotes_plain (by decide)]
      exact iff_of_false (fun h => h.2.1 rfl trivial) fun h => h.1 rfl
    · rw [quoted_cons hc, quotes_escape, ih]
      simp only [hc, false_imp_iff]
  | plain c cs h ih =>
    rw [quotes_plain h]
    by_cases hc : c = '\''
    · subst hc
      rw [quoted_apostrophe, quotes_escape, ih]
      simp only [imp_true_iff, not_false_eq_true]
    · rw [quoted_cons hc, quotes_plain h, ih]
      simp only [hc, false_imp_iff]

/-- What was put in front of the apostrophes is taken away again. -/
theorem unescaped_quoted (h : Quotes False cs) : unescaped (quoted cs) = unescaped cs := by
  induction cs using escapeInduction with
  | nil => rfl
  | lone => rfl
  | escape c cs ih =>
    obtain ⟨hc, hcs⟩ := quotes_escape.mp h
    rw [quoted_cons (by decide), quoted_cons hc, unescaped_escape, unescaped_escape, ih hcs]
  | plain c cs hplain ih =>
    have hcs := ((quotes_plain hplain).mp h).2
    rw [unescaped_plain hplain]
    by_cases hc : c = '\''
    · subst hc
      rw [quoted_apostrophe, unescaped_escape, ih hcs]
    · rw [quoted_cons hc, unescaped_plain hplain, ih hcs]

end quoted

/-- How a literal stands to the text that it was written for. -/
structure LiteralFor (text literal : List Char) : Prop where
  isLiteral_iff : IsLiteral literal ↔ Quotes False text
  read_eq_some_iff : ∀ u, readLiteral? literal = some u ↔ Quotes False text ∧ u = unescaped text
  read_eq_text_iff : readLiteral? literal = some text ↔ '\\' ∉ text

/-- **The literal for a text** is complete exactly if no apostrophe of the text is behind an odd
number of backslashes, and neither is its end.  It is read as the text exactly if there is no
backslash in it. -/
theorem literalFor_enumTextLiteral (cs : List Char) : LiteralFor cs (enumTextLiteral cs) := by
  have hinner : ∀ inner, enumTextLiteral cs = '\'' :: (inner ++ ['\'']) ↔ quoted cs = inner := by
    intro inner
    rw [enumTextLiteral_eq, List.cons_inj_right, List.append_left_inj]
  have hread : ∀ u, readLiteral? (enumTextLiteral cs) = some u ↔
      Quotes False cs ∧ u = unescaped cs := by
    intro u
    simp only [readLiteral?_eq_some_iff, hinner, exists_eq_left', quotes_quoted_iff]
    exact and_congr_right fun hquotes => by rw [unescaped_quoted hquotes]
  refine ⟨?_, hread, (hread cs).trans ?_⟩
  · unfold IsLiteral
    simp only [hinner, exists_eq_left', quotes_quoted_iff]
  · rw [eq_comm, unescaped_eq_self_iff]
    exact ⟨And.right, fun h => ⟨quotes_of_notMem h, h⟩⟩

end Naming

namespace Schema

open Model Naming

theorem literalFor_enumMember (t : String) :
    LiteralFor t.toList (enumMember (.text t)).literal.toList := by
  have hliteral : (enumMember (.text t)).literal.toList = enumTextLiteral t.toList :=
    String.toList_ofList
  rw [hliteral]
  exact literalFor_enumTextLiteral t.toList

/-- **How the literals of an enum are read.**  Every enum inside the model of a schema stands for a
schema in there, and has one member for each value of that schema but null, in order.  If the value
is a text, then the literal of the member is read as the text exactly if there is no backslash in
it, and it is a complete literal exactly if an even number of backslashes is in front of each
apostrophe of the text and at its end. -/
theorem enumMember_literals {name : String} {isDefinition : Bool} {schema : Value} {m : Model}
    (h : Inside m (resolve name isDefinition schema)) (hshape : m.shape = .enumeration) :
    ∃ n s, Node name schema (resolve name isDefinition schema) n s m ∧
      List.Forall₂ (fun v e => ∀ t, v = .text t → LiteralFor t.toList e.literal.toList)
        (memberValues s) m.members := by
  obtain ⟨n, s, hnode, hmembers⟩ := exists_members_of_inside h hshape
  refine ⟨n, s, hnode, ?_⟩
  rw [hmembers, List.forall₂_map_right_iff, List.forall₂_same]
  rintro v - t rfl
  exact literalFor_enumMember t

/-- A property that is one of some words, two of them with apostrophes. -/
def sampleWords : Value :=
  .mapping [(.text "type", .text "object"),
    (.text "properties", .mapping [(.text "word", .mapping [(.text "enum",
      .list [.text "it's", .text "rock 'n' roll", .null, .text ""])])])]

/-- All three words are read back. -/
theorem enumMember_literals_sampleWords :
    ∃ m, Inside m (resolve "song" false sampleWords) ∧ m.shape = .enumeration ∧
      m.members.map EnumMember.literal = ["'it\\'s'", "'rock \\'n\\' roll'", "''"] ∧
      (m.members.map fun e => (readLiteral? e.literal.toList).map String.ofList) =
        [some "it's", some "rock 'n' roll", some ""] ∧
      ∃ n s, Node "song" sampleWords (resolve "song" false sampleWords) n s m ∧
        List.Forall₂ (fun v e => ∀ t, v = .text t → LiteralFor t.toList e.literal.toList)
          (memberValues s) m.members := by
  have hproperties : (resolve "song" false sampleWords).properties.map
      (fun m => (m.shape, m.members.map EnumMember.literal)) =
      [(.enumeration, ["'it\\'s'", "'rock \\'n\\' roll'", "''"])] := by decide +kernel
  obtain ⟨m, hm, heq⟩ := List.map_eq_singleton_iff.mp hproperties
  obtain ⟨hshape, hliterals⟩ := Prod.mk.inj heq
  have hinside : Inside m (resolve "song" false sampleWords) :=
    .property (hm ▸ List.mem_cons_self) (.self m)
  have hread : (m.members.map EnumMember.literal).map
      (fun literal => (readLiteral? literal.toList).map String.ofList) =
      [some "it's", some "rock 'n' roll", some ""] := by
    rw [hliterals]
    decide +kernel
  rw [List.map_map] at hread
  exact ⟨m, hinside, hshape, hliterals, hread, enumMember_literals hinside hshape⟩

/-- An enum of a backslash, a backslash in front of an apostrophe, and one between two letters. -/
def sampleBackslashes : Value :=
  .mapping [(.text "enum", .list [.text "\\", .text "\\'", .text "a\\b"])]

/-- **A literal can be broken**: a backslash at the end escapes the closing apostrophe, and one in
front of an apostrophe is escaped itself, so the literal ends there.  Elsewhere it is lost. -/
theorem enumMember_literals_of_backslash :
    (resolve "" false sampleBackslashes).shape = .enumeration ∧
      (resolve "" false sampleBackslashes).members.map EnumMember.literal =
        ["'\\'", "'\\\\''", "'a\\b'"] ∧
      readLiteral? "'\\'".toList = none ∧ readLiteral? "'\\\\''".toList = none ∧
      readLiteral? "'a\\b'".toList = some "ab".toList :=
  ⟨by decide +kernel, by decide +kernel, by decide +kernel, by decide +kernel, by decide +kernel⟩

end Schema
end ServiceCatalog
