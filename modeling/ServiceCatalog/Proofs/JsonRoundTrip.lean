import ServiceCatalog.CommandLine.Console
import ServiceCatalog.Proofs.WrittenNumbers
import ServiceCatalog.Source.Format

/-!
# Printed documents are read back

What the program prints as JSON can be given to it again: a printed mapping is read as the same
mapping, with the keys in the same order at every level (`ofText_document`).

The text of a value is read with something behind it, and the reader leaves that alone
(`value_writeAt`).  Inside a list or a mapping it is a comma or the new line in front of the closing
bracket, so no number goes on there (`EndsNumber`).  The induction is over the value.  It carries
the steps that the reader is allowed to make, of which one per character is enough: every nested
value takes two of them, and a new line and a bracket stand around it.
-/

namespace ServiceCatalog
namespace Json

variable {c : Char} {cs opened rest : List Char}

/-! ## Texts -/

/-- A character in a string is named by a letter or by digits, or it stands there itself. -/
theorem escapeChar_cases (c : Char) :
    (∃ e, escapeChar c = ['\\', e] ∧ simpleEscape? e = some c) ∨
      (escapeChar c = '\\' :: 'u' :: Text.hexDigits 4 c.toNat ∧ c.toNat < 0x20) ∨
      (escapeChar c = [c] ∧ c ≠ '"' ∧ c ≠ '\\' ∧ 0x20 ≤ c.toNat) := by
  by_cases hletter : c ∈ ['"', '\\', '\n', '\r', '\t', '\x08', '\x0c']
  · simp only [List.mem_cons, List.not_mem_nil, or_false] at hletter
    rcases hletter with rfl | rfl | rfl | rfl | rfl | rfl | rfl <;> exact .inl ⟨_, rfl, rfl⟩
  · simp only [List.mem_cons, List.not_mem_nil, or_false, not_or] at hletter
    obtain ⟨hquote, hbackslash, hline, hreturn, htab, hback, hfeed⟩ := hletter
    right
    unfold escapeChar
    rw [if_neg hquote, if_neg hbackslash, if_neg hline, if_neg hreturn, if_neg htab, if_neg hback,
      if_neg hfeed]
    rcases Nat.lt_or_ge c.toNat 0x20 with hcontrol | hprinted
    · exact .inl ⟨if_pos hcontrol, hcontrol⟩
    · exact .inr ⟨if_neg (Nat.not_lt.mpr hprinted), hquote, hbackslash, hprinted⟩

/-- A letter behind a backslash. -/
theorem units_letter {e : Char} (h : simpleEscape? e = some c) :
    units opened ('\\' :: e :: cs) = pushUnit c.toNat (units opened cs) := by
  have hu : e ≠ 'u' := by
    rintro rfl
    cases h
  rw [units.eq_7 opened e cs (fun _ _ _ _ _ heq _ => hu heq) hu, h]

/-- Four digits behind a backslash.  The string is not over behind them. -/
theorem units_hexDigits {n : Nat} (hn : n < 0x20) (hcs : cs ≠ []) :
    units opened ('\\' :: 'u' :: (Text.hexDigits 4 n ++ cs)) = pushUnit n (units opened cs) := by
  have hvalue : Text.hexValue? (Text.hexDigits 4 n) = some n :=
    Text.hexValue?_hexDigits (hn.trans (by decide))
  obtain ⟨d, ds, rfl⟩ := List.exists_cons_of_ne_nil hcs
  exact units.eq_4 opened _ _ _ _ n d ds hvalue

/-- A character that stands in a string itself. -/
theorem units_plain (hquote : c ≠ '"') (hbackslash : c ≠ '\\') (hprinted : 0x20 ≤ c.toNat) :
    units opened (c :: cs) = pushUnit c.toNat (units opened cs) := by
  rw [units.eq_8 opened c cs hquote (fun h => absurd h hbackslash)
    (fun _ _ _ _ _ h => absurd h hbackslash) (fun _ h => absurd h hbackslash)
    (fun _ _ h => absurd h hbackslash), if_neg (Nat.not_lt.mpr hprinted)]

/-- A character in a string is read as its code point. -/
theorem units_escapeChar (hcs : cs ≠ []) :
    units opened (escapeChar c ++ cs) = pushUnit c.toNat (units opened cs) := by
  rcases escapeChar_cases c with ⟨e, hescape, he⟩ | ⟨hescape, hcontrol⟩ |
    ⟨hescape, hquote, hbackslash, hprinted⟩
  · rw [hescape]
    exact units_letter he
  · rw [hescape]
    exact units_hexDigits hcontrol hcs
  · rw [hescape]
    exact units_plain hquote hbackslash hprinted

theorem isHighHalf_toNat (c : Char) : Text.isHighHalf c.toNat = false := by
  have hhalf := Text.isHalf_toNat c
  simp only [Text.isHalf, Text.isHighHalf, Bool.and_eq_false_iff, decide_eq_false_iff_not]
    at hhalf ⊢
  omega

theorem charsOfUnits_map_toNat (cs : List Char) :
    Text.charsOfUnits (cs.map Char.toNat) = cs := by
  have hunit : ∀ c : Char, Text.charsOfUnit c.toNat = [c] := by
    intro c
    rw [Text.charsOfUnit, Text.isHalf_toNat, if_neg Bool.false_ne_true, Char.ofNat_toNat]
  induction cs with
  | nil => rfl
  | cons c cs ih =>
    cases cs with
    | nil => exact hunit c
    | cons d cs =>
      rw [List.map_cons, List.map_cons, Text.charsOfUnits, isHighHalf_toNat, Bool.false_and,
        if_neg Bool.false_ne_true, hunit, ← List.map_cons, ih, List.singleton_append]

theorem units_flatMap (cs : List Char) :
    units opened (cs.flatMap escapeChar ++ '"' :: rest) = .ok (cs.map Char.toNat, rest) := by
  induction cs with
  | nil => rfl
  | cons c cs ih =>
    rw [List.flatMap_cons, List.append_assoc,
      units_escapeChar (List.append_ne_nil_of_right_ne_nil _ (List.cons_ne_nil _ _)), ih]
    rfl

theorem string_writeText (s : String) :
    string opened (s.toList.flatMap escapeChar ++ '"' :: rest) = .ok (s, rest) := by
  rw [string, units_flatMap]
  show Except.ok (String.ofList (Text.charsOfUnits (s.toList.map Char.toNat)), rest) = _
  rw [charsOfUnits_map_toNat, String.ofList_toList]

/-! ## Blanks -/

theorem skipBlanks_cons (h : isBlank c = false) : skipBlanks (c :: cs) = c :: cs :=
  List.dropWhile_cons_of_neg (by rw [h]; exact Bool.false_ne_true)

theorem skipBlanks_newLine (level : Nat) (cs : List Char) :
    skipBlanks (newLine level ++ cs) = skipBlanks cs := by
  refine List.dropWhile_append_of_pos fun c hc => ?_
  rcases List.mem_cons.mp hc with rfl | hspace
  · rfl
  · rw [List.eq_of_mem_replicate hspace]
    rfl

variable {fuel level outer : Nat} {j : Json} {js : List Json} {k : String}
  {ms : List (String × Json)} {ds es : List Char} {p : Json × List Char}

/-- A value starts with no blank, no closing bracket and no mark of a byte order. -/
theorem exists_head_of_value (h : value fuel cs = .ok p) :
    ∃ c ds, cs = c :: ds ∧ isBlank c = false ∧ c ≠ ']' ∧ c ≠ '\uFEFF' := by
  cases fuel with
  | zero => cases h
  | succ fuel =>
    cases cs with
    | nil => cases h
    | cons c ds =>
      refine ⟨c, ds, rfl, ?_, ?_, ?_⟩
      · refine Bool.eq_false_iff.mpr fun hblank => ?_
        simp only [isBlank, Bool.or_eq_true, decide_eq_true_eq] at hblank
        rcases hblank with ((rfl | rfl) | rfl) | rfl <;> cases h
      · rintro rfl
        cases h
      · rintro rfl
        cases h

theorem skipBlanks_of_value (h : value fuel cs = .ok p) : skipBlanks cs = cs := by
  obtain ⟨c, ds, rfl, hblank, -⟩ := exists_head_of_value h
  exact skipBlanks_cons hblank

/-! ## One step of the reader -/

theorem items_last (hvalue : value fuel cs = .ok (j, ds)) (hend : skipBlanks ds = ']' :: rest) :
    items (fuel + 1) cs = .ok ([j], rest) := by
  simp only [items, hvalue, Except.bind, hend]

theorem items_comma (hvalue : value fuel cs = .ok (j, ',' :: ds))
    (hitems : items fuel (skipBlanks ds) = .ok (js, rest)) :
    items (fuel + 1) cs = .ok (j :: js, rest) := by
  have hcomma : skipBlanks (',' :: ds) = ',' :: ds := rfl
  simp only [items, hvalue, Except.bind, hcomma, hitems, Except.map]

theorem members_last (hkey : string ('"' :: cs) cs = .ok (k, ':' :: ds))
    (hvalue : value fuel (skipBlanks ds) = .ok (j, es)) (hend : skipBlanks es = '\x7d' :: rest) :
    members (fuel + 1) ('"' :: cs) = .ok ([(k, j)], rest) := by
  have hcolon : skipBlanks (':' :: ds) = ':' :: ds := rfl
  simp only [members, hkey, Except.bind, hcolon, hvalue, hend]

theorem members_comma (hkey : string ('"' :: cs) cs = .ok (k, ':' :: ds))
    (hvalue : value fuel (skipBlanks ds) = .ok (j, ',' :: es))
    (hmembers : members fuel (skipBlanks es) = .ok (ms, rest)) :
    members (fuel + 1) ('"' :: cs) = .ok ((k, j) :: ms, rest) := by
  have hcolon : skipBlanks (':' :: ds) = ':' :: ds := rfl
  have hcomma : skipBlanks (',' :: es) = ',' :: es := rfl
  simp only [members, hkey, Except.bind, hcolon, hvalue, hcomma, hmembers, Except.map]

theorem value_array (h : items fuel (skipBlanks ds) = .ok (js, rest)) :
    value (fuel + 1) ('[' :: ds) = .ok (.array js, rest) := by
  have hopen : ∀ es, skipBlanks ds = ']' :: es → False := by
    intro es hes
    rw [hes] at h
    cases fuel with
    | zero => cases h
    | succ fuel => cases fuel <;> cases h
  simp only [value, h, Except.map]

theorem value_object (h : members fuel (skipBlanks ds) = .ok (ms, rest)) :
    value (fuel + 1) ('\x7b' :: ds) = .ok (.object (distinct ms), rest) := by
  have hopen : ∀ es, skipBlanks ds = '\x7d' :: es → False := by
    intro es hes
    rw [hes] at h
    cases fuel <;> cases h
  simp only [value, h, Except.map]

/-! ## Whole values -/

mutual

/-- No object holds a key twice, at any level. -/
def hasDistinctKeys : Json → Bool
  | .array js => itemsHaveDistinctKeys js
  | .object ms => decide (ms.map Prod.fst).Nodup && membersHaveDistinctKeys ms
  | _ => true

/-- No object among some items holds a key twice. -/
def itemsHaveDistinctKeys : List Json → Bool
  | [] => true
  | j :: js => hasDistinctKeys j && itemsHaveDistinctKeys js

/-- No object among the values of some members holds a key twice. -/
def membersHaveDistinctKeys : List (String × Json) → Bool
  | [] => true
  | (_, j) :: ms => hasDistinctKeys j && membersHaveDistinctKeys ms

end

theorem endsNumber_comma (cs : List Char) : EndsNumber (',' :: cs) := by
  rintro c ⟨⟩
  decide

theorem endsNumber_newLine (level : Nat) (cs : List Char) : EndsNumber (newLine level ++ cs) := by
  rintro c ⟨⟩
  decide

theorem writeText_append (s : String) (cs : List Char) :
    writeText s ++ cs = '"' :: (s.toList.flatMap escapeChar ++ '"' :: cs) := by
  rw [writeText, List.append_assoc, List.cons_append, List.singleton_append]

/-- The key of a member starts behind the blanks of its line. -/
theorem skipBlanks_key (level : Nat) (k : String) (cs : List Char) :
    skipBlanks (newLine level ++ (writeText k ++ cs)) =
      '"' :: (k.toList.flatMap escapeChar ++ '"' :: cs) := by
  rw [skipBlanks_newLine, writeText_append, skipBlanks_cons rfl]

/-- The value of a member starts behind a blank. -/
theorem value_skipBlanks (h : value fuel cs = .ok p) :
    value fuel (skipBlanks (' ' :: cs)) = .ok p := by
  show value fuel (skipBlanks cs) = .ok p
  rw [skipBlanks_of_value h, h]

theorem skipBlanks_bracket (hblank : isBlank c = false) (level : Nat) (cs : List Char) :
    skipBlanks (newLine level ++ c :: cs) = c :: cs := by
  rw [skipBlanks_newLine, skipBlanks_cons hblank]

mutual

/-- **What is written is read**, and nothing of what is behind it. -/
theorem value_writeAt : ∀ (j : Json) (level fuel : Nat) (rest : List Char),
    j.hasDistinctKeys = true → j.isShort = true → EndsNumber rest →
      (writeAt level j).length < fuel → value fuel (writeAt level j ++ rest) = .ok (j, rest)
  | _, _, 0, _, _, _, _, hfuel => absurd hfuel (Nat.not_lt_zero _)
  | .null, _, fuel + 1, _, _, _, _, _ => rfl
  | .bool b, _, fuel + 1, _, _, _, _, _ => by cases b <;> rfl
  | .int n, _, fuel + 1, _, _, hshort, hrest, _ => value_writtenInt hshort hrest fuel
  | .float x, _, fuel + 1, _, _, _, hrest, _ => value_write x hrest fuel
  | .text s, _, fuel + 1, rest, _, _, _, _ => by
    rw [writeAt, writeText_append]
    simp only [value, string_writeText, Except.map]
  | .array [], _, fuel + 1, _, _, _, _, _ => rfl
  | .array (j :: js), level, fuel + 1, rest, hkeys, hshort, _, hfuel => by
    rw [writeAt] at hfuel ⊢
    have hitems := items_writeItems (j :: js) (level + 1) level fuel rest (List.cons_ne_nil j js)
      hkeys hshort (by simp only [List.length_append, List.length_cons] at hfuel; omega)
    rw [List.append_assoc, List.append_assoc]
    exact value_array hitems
  | .object [], _, fuel + 1, _, _, _, _, _ => rfl
  | .object (m :: ms), level, fuel + 1, rest, hkeys, hshort, _, hfuel => by
    rw [writeAt] at hfuel ⊢
    obtain ⟨hnodup, hvalues⟩ := Bool.and_eq_true_iff.mp hkeys
    have hmembers := members_writeMembers (m :: ms) (level + 1) level fuel rest
      (List.cons_ne_nil m ms) hvalues hshort
      (by simp only [List.length_append, List.length_cons] at hfuel; omega)
    have hobject := value_object hmembers
    rw [distinct_of_nodup (of_decide_eq_true hnodup)] at hobject
    rw [List.append_assoc, List.append_assoc]
    exact hobject

theorem items_writeItems : ∀ (js : List Json) (level outer fuel : Nat) (rest : List Char),
    js ≠ [] → itemsHaveDistinctKeys js = true → allShort js = true →
      (writeItems level js).length < fuel →
      items fuel (skipBlanks (writeItems level js ++ (newLine outer ++ ']' :: rest))) =
        .ok (js, rest)
  | [], _, _, _, _, hne, _, _, _ => absurd rfl hne
  | _, _, _, 0, _, _, _, _, hfuel => absurd hfuel (Nat.not_lt_zero _)
  | [j], level, outer, fuel + 1, rest, _, hkeys, hshort, hfuel => by
    rw [writeItems] at hfuel ⊢
    have hvalue := value_writeAt j level fuel (newLine outer ++ ']' :: rest)
      (Bool.and_eq_true_iff.mp hkeys).1 (Bool.and_eq_true_iff.mp hshort).1
      (endsNumber_newLine outer _)
      (by simp only [newLine, List.length_append, List.length_cons] at hfuel; omega)
    rw [List.append_assoc, skipBlanks_newLine, skipBlanks_of_value hvalue]
    exact items_last hvalue (skipBlanks_bracket rfl outer rest)
  | j :: k :: js, level, outer, fuel + 1, rest, _, hkeys, hshort, hfuel => by
    rw [writeItems.eq_3 level j (k :: js) (List.cons_ne_nil k js)] at hfuel ⊢
    obtain ⟨hkey, hkeys⟩ := Bool.and_eq_true_iff.mp hkeys
    obtain ⟨hhead, hshort⟩ := Bool.and_eq_true_iff.mp hshort
    have hvalue := value_writeAt j level fuel
      (',' :: (writeItems level (k :: js) ++ (newLine outer ++ ']' :: rest))) hkey
      hhead (endsNumber_comma _)
      (by simp only [newLine, List.length_append, List.length_cons] at hfuel; omega)
    have hitems := items_writeItems (k :: js) level outer fuel rest (List.cons_ne_nil k js) hkeys
      hshort (by simp only [newLine, List.length_append, List.length_cons] at hfuel; omega)
    rw [List.append_assoc, List.append_assoc, skipBlanks_newLine, List.cons_append,
      skipBlanks_of_value hvalue]
    exact items_comma hvalue hitems

theorem members_writeMembers :
    ∀ (ms : List (String × Json)) (level outer fuel : Nat) (rest : List Char),
    ms ≠ [] → membersHaveDistinctKeys ms = true → membersShort ms = true →
      (writeMembers level ms).length < fuel →
      members fuel (skipBlanks (writeMembers level ms ++ (newLine outer ++ '\x7d' :: rest))) =
        .ok (ms, rest)
  | [], _, _, _, _, hne, _, _, _ => absurd rfl hne
  | _, _, _, 0, _, _, _, _, hfuel => absurd hfuel (Nat.not_lt_zero _)
  | [(k, j)], level, outer, fuel + 1, rest, _, hkeys, hshort, hfuel => by
    rw [writeMembers] at hfuel ⊢
    have hvalue := value_writeAt j level fuel (newLine outer ++ '\x7d' :: rest)
      (Bool.and_eq_true_iff.mp hkeys).1 (Bool.and_eq_true_iff.mp hshort).1
      (endsNumber_newLine outer _)
      (by simp only [newLine, List.length_append, List.length_cons] at hfuel; omega)
    rw [List.append_assoc, List.append_assoc, skipBlanks_key]
    exact members_last (string_writeText k) (value_skipBlanks hvalue)
      (skipBlanks_bracket rfl outer rest)
  | (k, j) :: m :: ms, level, outer, fuel + 1, rest, _, hkeys, hshort, hfuel => by
    rw [writeMembers.eq_3 level k j (m :: ms) (List.cons_ne_nil m ms)] at hfuel ⊢
    obtain ⟨hkey, hkeys⟩ := Bool.and_eq_true_iff.mp hkeys
    obtain ⟨hhead, hshort⟩ := Bool.and_eq_true_iff.mp hshort
    have hvalue := value_writeAt j level fuel
      (',' :: (writeMembers level (m :: ms) ++ (newLine outer ++ '\x7d' :: rest))) hkey
      hhead (endsNumber_comma _)
      (by simp only [newLine, List.length_append, List.length_cons] at hfuel; omega)
    have hmembers := members_writeMembers (m :: ms) level outer fuel rest (List.cons_ne_nil m ms)
      hkeys hshort (by simp only [newLine, List.length_append, List.length_cons] at hfuel; omega)
    rw [List.append_assoc, List.append_assoc, List.append_assoc, skipBlanks_key]
    exact members_comma (string_writeText k) (value_skipBlanks hvalue) hmembers

end

/-! ## Whole texts -/

theorem read_writeAt (h : j.hasDistinctKeys = true) (hshort : j.isShort = true) :
    read (writeAt 0 j ++ ['\n']) = .ok j := by
  have hfuel : (writeAt 0 j).length < 2 * (writeAt 0 j ++ ['\n']).length + 2 := by
    rw [List.length_append]
    omega
  have hvalue := value_writeAt j 0 _ ['\n'] h hshort (endsNumber_newLine 0 []) hfuel
  obtain ⟨c, ds, hcs, -, -, hmark⟩ := exists_head_of_value hvalue
  unfold read
  split
  next ds' heq =>
    rw [hcs] at heq
    cases heq
    exact absurd rfl hmark
  next =>
    rw [skipBlanks_of_value hvalue, hvalue]
    rfl

theorem toList_render (j : Json) : (j.render ++ "\n").toList = writeAt 0 j ++ ['\n'] := by
  rw [String.toList_append, render, String.toList_ofList]
  rfl

/-- **What is printed is read.** -/
theorem parse_render (h : j.hasDistinctKeys = true) (hshort : j.isShort = true) :
    parse (j.render ++ "\n") = .ok j := by
  rw [parse, toList_render, read_writeAt h hshort]

/-- A value without repeated keys is determined by what is printed of it. -/
theorem eq_of_render_eq {k : Json} (hj : j.hasDistinctKeys = true) (hjs : j.isShort = true)
    (hk : k.hasDistinctKeys = true) (hks : k.isShort = true) (h : j.render = k.render) : j = k := by
  have hread := parse_render hj hjs
  rw [h, parse_render hk hks] at hread
  exact (Except.ok.inj hread).symm

end Json

/-! ## Documents -/

theorem Document.ofText_render {ms : List (String × Json)}
    (h : (Json.object ms).hasDistinctKeys = true) (hshort : (Json.object ms).isShort = true)
    {hint : Option Format} (hhint : hint ≠ some .yaml) :
    Document.ofText ((Json.object ms).render ++ "\n") hint = .ok (Json.object ms).toValue := by
  unfold Document.ofText
  split
  next => exact absurd rfl hhint
  next =>
    rw [Json.parse_render h hshort]
    rfl

/-- **What is printed can be loaded again.**  A mapping without repeated keys and without integers
beyond the limit is printed, or saved in the file that was named for it, as a text that is JSON for
this mapping, with its keys in their order, and a document with this text is the mapping, whether it
is labelled as JSON or not at all. -/
theorem Console.ofText_document (c : Console) (ms : List (String × Json))
    (h : (Json.object ms).hasDistinctKeys = true) (hshort : (Json.object ms).isShort = true) :
    ∃ text, (c.document (.object ms) = .output text ∨
        ∃ path, c.outputFile = some path ∧ c.document (.object ms) = .save path text) ∧
      Json.parse text = .ok (.object ms) ∧
      Document.ofText text (some .json) = .ok (Json.object ms).toValue ∧
      Document.ofText text none = .ok (Json.object ms).toValue := by
  refine ⟨(Json.object ms).render ++ "\n", ?_, Json.parse_render h hshort,
    Document.ofText_render h hshort (by decide), Document.ofText_render h hshort (by decide)⟩
  unfold Console.document
  split
  next => exact .inl rfl
  next path hpath =>
    split
    next => exact .inl rfl
    next => exact .inr ⟨path, hpath, rfl⟩

/-- A mapping with values of every kind. -/
def sampleDocument : List (String × Json) :=
  [("title", .text "a \"quoted\" \\ text\n\x01 \u00E9"), ("", .null),
    ("numbers", .array [.int (-12), .int 0, .float (.ofDecimal true 0 0),
      .float (.ofDecimal false 15 29), .float (.infinite true), .float .nan]),
    ("nested", .object [("b", .object []), ("a", .array [.array [], .bool true])])]

theorem Console.ofText_document_sample :
    (Json.object sampleDocument).hasDistinctKeys = true ∧
      (Json.object sampleDocument).isShort = true ∧
      ∃ text, (Console.document { outputFile := some "out.json" } (.object sampleDocument) =
            .output text ∨
          ∃ path, some "out.json" = some path ∧
            Console.document { outputFile := some "out.json" } (.object sampleDocument) =
              .save path text) ∧
        Json.parse text = .ok (.object sampleDocument) ∧
        Document.ofText text (some .json) = .ok (Json.object sampleDocument).toValue ∧
        Document.ofText text none = .ok (Json.object sampleDocument).toValue := by
  have hkeys : (Json.object sampleDocument).hasDistinctKeys = true := by decide +kernel
  have hshort : (Json.object sampleDocument).isShort = true := by decide +kernel
  exact ⟨hkeys, hshort,
    Console.ofText_document { outputFile := some "out.json" } sampleDocument hkeys hshort⟩

end ServiceCatalog
