import ServiceCatalog.Proofs.JsonReading
import ServiceCatalog.Source.Load

/-!
# A document and the place it is loaded from

A text comes from the standard input, from a file or from the web.  From a file it comes with every
end of a line as a line feed, and from a file or the input it has to hold something other than
blanks.  For a text that is JSON none of this matters (`Source.load_of_parse`).

Line ends do not matter because none of them stands inside of anything that is read: between the
parts of a text they are blanks (`Json.skipBlanks_withLineFeeds`), and numbers, names and strings
hold none (`Json.scalar_ignoresLineEnds`, `Json.ReadsUnits.withLineFeeds`).  So every way to read a
text is a way to read it with line feeds (`Json.ReadsValue.withLineFeeds`).  The empty check does
not matter because no value starts with a blank (`Json.isBlankText_of_parse`).
-/

namespace ServiceCatalog

variable {c : Char} {cs ds rest : List Char}

/-! ## Line ends -/

theorem withLineFeeds_cons (hc : c ≠ '\r') (cs : List Char) :
    withLineFeeds (c :: cs) = c :: withLineFeeds cs :=
  withLineFeeds.eq_4 c cs (fun _ h _ => hc h) hc

/-- A carriage return becomes a line feed, together with a line feed behind it. -/
theorem exists_withLineFeeds_return (cs : List Char) :
    ∃ ds, withLineFeeds ('\r' :: cs) = '\n' :: ds := by
  unfold withLineFeeds
  split
  next h => cases h
  next => exact ⟨_, rfl⟩
  next => exact ⟨_, rfl⟩
  next c ds _ hc heq =>
    cases heq
    exact absurd rfl hc

/-- What is no line feed afterwards was there before. -/
theorem withLineFeeds_eq_cons (hfeed : c ≠ '\n') (h : withLineFeeds cs = c :: ds) :
    ∃ es, cs = c :: es ∧ withLineFeeds es = ds := by
  cases cs with
  | nil => cases h
  | cons e es =>
    by_cases he : e = '\r'
    · obtain ⟨fs, hfs⟩ := exists_withLineFeeds_return es
      rw [he, hfs] at h
      exact absurd (List.cons.inj h).1.symm hfeed
    · rw [withLineFeeds_cons he] at h
      cases h
      exact ⟨es, rfl, rfl⟩

/-- A word without line ends was there before. -/
theorem exists_of_withLineFeeds_eq_append {w : List Char} (hw : '\n' ∉ w)
    (h : withLineFeeds cs = w ++ ds) : ∃ es, cs = w ++ es := by
  induction w generalizing cs with
  | nil => exact ⟨cs, rfl⟩
  | cons c w ih =>
    obtain ⟨hc, hw⟩ := List.ne_and_not_mem_of_not_mem_cons hw
    obtain ⟨es, rfl, hes⟩ := withLineFeeds_eq_cons (Ne.symm hc) h
    obtain ⟨fs, rfl⟩ := ih hw hes
    exact ⟨fs, rfl⟩

theorem takeWhile_withLineFeeds (cs : List Char) :
    (withLineFeeds cs).takeWhile Char.isDigit = cs.takeWhile Char.isDigit := by
  induction cs with
  | nil => rfl
  | cons c cs ih =>
    by_cases hc : c = '\r'
    · obtain ⟨ds, hds⟩ := exists_withLineFeeds_return cs
      rw [hc, hds]
      rfl
    · rw [withLineFeeds_cons hc, List.takeWhile_cons, List.takeWhile_cons, ih]

theorem dropWhile_withLineFeeds (cs : List Char) :
    (withLineFeeds cs).dropWhile Char.isDigit = withLineFeeds (cs.dropWhile Char.isDigit) := by
  induction cs with
  | nil => rfl
  | cons c cs ih =>
    by_cases hdigit : c.isDigit = true
    · have hc : c ≠ '\r' := by rintro rfl; cases hdigit
      rw [withLineFeeds_cons hc, List.dropWhile_cons_of_pos hdigit,
        List.dropWhile_cons_of_pos hdigit, ih]
    · rw [List.dropWhile_cons_of_neg hdigit]
      by_cases hc : c = '\r'
      · obtain ⟨ds, hds⟩ := exists_withLineFeeds_return cs
        rw [hc, hds]
        rfl
      · rw [withLineFeeds_cons hc, List.dropWhile_cons_of_neg hdigit]

namespace Json

/-- Line ends are blanks. -/
theorem skipBlanks_withLineFeeds (cs : List Char) :
    skipBlanks (withLineFeeds cs) = withLineFeeds (skipBlanks cs) := by
  fun_induction withLineFeeds cs with
  | case1 => rfl
  | case2 cs ih => exact ih
  | case3 cs _ ih => exact ih
  | case4 c cs _ hc ih =>
    by_cases hblank : isBlank c = true
    · have hskip : ∀ ds, skipBlanks (c :: ds) = skipBlanks ds := fun ds =>
        List.dropWhile_cons_of_pos hblank
      rw [hskip, hskip, ih]
    · have hblank := Bool.eq_false_iff.mpr hblank
      rw [skipBlanks_cons hblank, skipBlanks_cons hblank, withLineFeeds_cons hc]

/-! ## Numbers and names -/

/-- What is read at the start of a text is the same with line feeds at the ends of lines. -/
def IgnoresLineEnds {α : Type} (f : List Char → Option (α × List Char)) : Prop :=
  ∀ cs, f (withLineFeeds cs) = (f cs).map (Prod.map id withLineFeeds)

/-- Where nothing is read at a line end, only what starts with another character counts. -/
theorem IgnoresLineEnds.of_cons {α : Type} {f : List Char → Option (α × List Char)}
    (hnil : f [] = none) (hreturn : ∀ ds, f ('\r' :: ds) = none)
    (hfeed : ∀ ds, f ('\n' :: ds) = none)
    (hcons : ∀ c ds, c ≠ '\r' →
      f (c :: withLineFeeds ds) = (f (c :: ds)).map (Prod.map id withLineFeeds)) :
    IgnoresLineEnds f := by
  intro cs
  cases cs with
  | nil =>
    rw [withLineFeeds, hnil]
    rfl
  | cons c cs =>
    by_cases hc : c = '\r'
    · obtain ⟨ds, hds⟩ := exists_withLineFeeds_return cs
      rw [hc, hds, hreturn, hfeed]
      rfl
    · rw [withLineFeeds_cons hc, hcons c cs hc]

theorem digits?_ignoresLineEnds : IgnoresLineEnds digits? := by
  refine .of_cons rfl (fun _ => rfl) (fun _ => rfl) fun c ds hc => ?_
  have htake := takeWhile_withLineFeeds (c :: ds)
  have hdrop := dropWhile_withLineFeeds (c :: ds)
  rw [withLineFeeds_cons hc] at htake hdrop
  rw [digits?, digits?, htake, hdrop, Option.map_if]
  rfl

theorem wholePart?_ignoresLineEnds : IgnoresLineEnds wholePart? := by
  refine .of_cons rfl (fun _ => rfl) (fun _ => rfl) fun c ds hc => ?_
  by_cases hzero : c = '0'
  · rw [hzero]
    rfl
  · rw [wholePart?_of_ne hzero, wholePart?_of_ne hzero, ← withLineFeeds_cons hc,
      digits?_ignoresLineEnds]

theorem fraction?_ignoresLineEnds : IgnoresLineEnds fraction? := by
  refine .of_cons rfl (fun _ => rfl) (fun _ => rfl) fun c ds _ => ?_
  by_cases hpoint : c = '.'
  · rw [hpoint, fraction?_point, fraction?_point, digits?_ignoresLineEnds]
  · rw [fraction?_of_ne hpoint, fraction?_of_ne hpoint]
    rfl

theorem signedDigits?_ignoresLineEnds : IgnoresLineEnds signedDigits? := by
  have hmap : ∀ (f : List Char → Int) (ds : List Char),
      (digits? (withLineFeeds ds)).map (Prod.map f id) =
        ((digits? ds).map (Prod.map f id)).map (Prod.map id withLineFeeds) := by
    intro f ds
    rw [digits?_ignoresLineEnds, Option.map_map, Option.map_map]
    rfl
  refine .of_cons rfl (fun _ => rfl) (fun _ => rfl) fun c ds hc => ?_
  by_cases hminus : c = '-'
  · rw [hminus, signedDigits?_minus, signedDigits?_minus, hmap]
  by_cases hplus : c = '+'
  · rw [hplus, signedDigits?_plus, signedDigits?_plus, hmap]
  · rw [signedDigits?_of_ne hminus hplus, signedDigits?_of_ne hminus hplus,
      ← withLineFeeds_cons hc, hmap]

theorem exponent?_ignoresLineEnds : IgnoresLineEnds exponent? := by
  refine .of_cons rfl (fun _ => rfl) (fun _ => rfl) fun c ds _ => ?_
  by_cases hsmall : c = 'e'
  · rw [hsmall]
    exact signedDigits?_ignoresLineEnds ds
  by_cases hlarge : c = 'E'
  · rw [hlarge]
    exact signedDigits?_ignoresLineEnds ds
  · have hnone : ∀ es, exponent? (c :: es) = none := fun es =>
      exponent?.eq_3 _ (fun _ h => hsmall (List.cons.inj h).1) fun _ h =>
        hlarge (List.cons.inj h).1
    rw [hnone, hnone]
    rfl

theorem magnitude?_ignoresLineEnds (negative : Bool) : IgnoresLineEnds (magnitude? negative) := by
  intro cs
  unfold magnitude?
  rw [wholePart?_ignoresLineEnds]
  cases wholePart? cs with
  | none => rfl
  | some q =>
    obtain ⟨whole, ds⟩ := q
    have hplaces : ((fraction? ds).map (Prod.map id withLineFeeds)).getD ([], withLineFeeds ds) =
        Prod.map id withLineFeeds ((fraction? ds).getD ([], ds)) := by
      cases fraction? ds <;> rfl
    simp only [Option.map_some, Prod.map_apply, id, fraction?_ignoresLineEnds ds, hplaces]
    obtain ⟨places, es⟩ := (fraction? ds).getD ([], ds)
    simp only [Prod.map_apply, id, exponent?_ignoresLineEnds es]
    cases exponent? es with
    | some r => rfl
    | none =>
      simp only [Option.map_none]
      split <;> rfl

theorem number?_ignoresLineEnds : IgnoresLineEnds number? := by
  refine .of_cons rfl (fun _ => rfl) (fun _ => rfl) fun c ds hc => ?_
  by_cases hminus : c = '-'
  · rw [hminus]
    exact magnitude?_ignoresLineEnds true ds
  · have hplain : ∀ es, number? (c :: es) = magnitude? false (c :: es) := fun es =>
      number?.eq_2 _ fun fs h => hminus (List.cons.inj h).1
    rw [hplain, hplain, ← withLineFeeds_cons hc, magnitude?_ignoresLineEnds]

/-- There is no line end in a name. -/
theorem name?_ignoresLineEnds : IgnoresLineEnds name? := by
  intro cs
  fun_cases name? cs
  case case7 hnull htrue hfalse hnan hinfinity hminus =>
    have other : ∀ w : List Char, '\n' ∉ w → (∀ es, cs = w ++ es → False) →
        ∀ ds, withLineFeeds cs = w ++ ds → False := fun w hw hcs ds h =>
      (exists_of_withLineFeeds_eq_append hw h).elim hcs
    exact name?.eq_7 _ (other ['n', 'u', 'l', 'l'] (by decide) hnull)
      (other ['t', 'r', 'u', 'e'] (by decide) htrue)
      (other ['f', 'a', 'l', 's', 'e'] (by decide) hfalse)
      (other ['N', 'a', 'N'] (by decide) hnan)
      (other ['I', 'n', 'f', 'i', 'n', 'i', 't', 'y'] (by decide) hinfinity)
      (other ['-', 'I', 'n', 'f', 'i', 'n', 'i', 't', 'y'] (by decide) hminus)
  all_goals rfl

theorem scalar_ignoresLineEnds : IgnoresLineEnds fun cs => (name? cs).or (number? cs) := by
  intro cs
  dsimp only
  rw [name?_ignoresLineEnds, number?_ignoresLineEnds, Option.map_or]

/-! ## Strings -/

/-- No control character stands in a string, so no line end does. -/
theorem ReadsUnits.withLineFeeds {us : List Nat} (h : ReadsUnits cs us rest) :
    ReadsUnits (withLineFeeds cs) us (withLineFeeds rest) := by
  induction h with
  | close rest => exact .close _
  | @digits a b c d n cs rest us hn h ih =>
    have hreturn : ∀ e ∈ [a, b, c, d], e ≠ '\r' := by
      rintro e he rfl
      exact ne_none_of_hexValue? hn _ he rfl
    simp only [List.forall_mem_cons] at hreturn
    obtain ⟨ha, hb, hc, hd, -⟩ := hreturn
    rw [withLineFeeds_cons (by decide), withLineFeeds_cons (by decide), withLineFeeds_cons ha,
      withLineFeeds_cons hb, withLineFeeds_cons hc, withLineFeeds_cons hd]
    exact .digits hn ih
  | @letter e c cs rest us he h ih =>
    have hreturn : e ≠ '\r' := by
      rintro rfl
      cases he
    rw [withLineFeeds_cons (by decide), withLineFeeds_cons hreturn]
    exact .letter he ih
  | @plain c cs rest us hquote hbackslash hprinted h ih =>
    have hreturn : c ≠ '\r' := by
      rintro rfl
      exact absurd hprinted (by decide)
    rw [withLineFeeds_cons hreturn]
    exact .plain hquote hbackslash hprinted ih

theorem string_withLineFeeds {s : String} {opened : List Char} (opened' : List Char)
    (h : string opened cs = .ok (s, rest)) :
    string opened' (withLineFeeds cs) = .ok (s, withLineFeeds rest) := by
  obtain ⟨us, hus, hs⟩ := string_eq_ok_iff.mp h
  exact string_eq_ok_iff.mpr ⟨us, hus.withLineFeeds, hs⟩

/-! ## Values -/

/-- What stands behind the blanks stands there with other line ends too. -/
theorem skipBlanks_eq_cons_withLineFeeds (hc : c ≠ '\r') (h : skipBlanks cs = c :: ds) :
    skipBlanks (withLineFeeds cs) = c :: withLineFeeds ds := by
  rw [skipBlanks_withLineFeeds, h, withLineFeeds_cons hc]

mutual

/-- **A value is the same value with line feeds at the ends of its lines.** -/
theorem ReadsValue.withLineFeeds : ∀ {cs : List Char} {j : Json} {rest : List Char},
    ReadsValue cs j rest → ReadsValue (withLineFeeds cs) j (withLineFeeds rest)
  | _, _, _, .text h => .text (string_withLineFeeds _ h)
  | cs, j, rest, .scalar h hlimit =>
    .scalar ((scalar_ignoresLineEnds cs).trans (congrArg _ h)) hlimit
  | _, _, _, .emptyArray h => .emptyArray (skipBlanks_eq_cons_withLineFeeds (by decide) h)
  | _, _, _, .array h => .array (skipBlanks_withLineFeeds _ ▸ h.withLineFeeds)
  | _, _, _, .emptyObject h => .emptyObject (skipBlanks_eq_cons_withLineFeeds (by decide) h)
  | _, _, _, .object h => .object (skipBlanks_withLineFeeds _ ▸ h.withLineFeeds)

theorem ReadsItems.withLineFeeds : ∀ {cs : List Char} {js : List Json} {rest : List Char},
    ReadsItems cs js rest → ReadsItems (withLineFeeds cs) js (withLineFeeds rest)
  | _, _, _, .last h hend =>
    .last h.withLineFeeds (skipBlanks_eq_cons_withLineFeeds (by decide) hend)
  | _, _, _, .more h hcomma hmore =>
    .more h.withLineFeeds (skipBlanks_eq_cons_withLineFeeds (by decide) hcomma)
      (skipBlanks_withLineFeeds _ ▸ hmore.withLineFeeds)

theorem ReadsMembers.withLineFeeds :
    ∀ {cs : List Char} {ms : List (String × Json)} {rest : List Char},
    ReadsMembers cs ms rest → ReadsMembers (withLineFeeds cs) ms (withLineFeeds rest)
  | _, _, _, .last hkey hcolon h hend =>
    .last (string_withLineFeeds _ hkey) (skipBlanks_eq_cons_withLineFeeds (by decide) hcolon)
      (skipBlanks_withLineFeeds _ ▸ h.withLineFeeds)
      (skipBlanks_eq_cons_withLineFeeds (by decide) hend)
  | _, _, _, .more hkey hcolon h hcomma hmore =>
    .more (string_withLineFeeds _ hkey) (skipBlanks_eq_cons_withLineFeeds (by decide) hcolon)
      (skipBlanks_withLineFeeds _ ▸ h.withLineFeeds)
      (skipBlanks_eq_cons_withLineFeeds (by decide) hcomma)
      (skipBlanks_withLineFeeds _ ▸ hmore.withLineFeeds)

end

/-! ## Whole texts -/

theorem read_withLineFeeds {j : Json} (h : read cs = .ok j) : read (withLineFeeds cs) = .ok j := by
  obtain ⟨ds, hread, hds⟩ := read_eq_ok_iff.mp h
  refine read_eq_ok_iff.mpr ⟨withLineFeeds ds, ?_, ?_⟩
  · rw [skipBlanks_withLineFeeds]
    exact hread.withLineFeeds
  · rw [skipBlanks_withLineFeeds, hds]
    rfl

theorem parse_withLineFeeds {text : String} {j : Json} (h : parse text = .ok j) :
    parse (String.ofList (ServiceCatalog.withLineFeeds text.toList)) = .ok j := by
  rw [parse_eq_ok_iff, String.toList_ofList]
  exact read_withLineFeeds (parse_eq_ok_iff.mp h)

/-- A text that is JSON holds something other than blanks. -/
theorem isBlankText_of_parse {text : String} {j : Json} (h : parse text = .ok j) :
    Source.isBlankText text = false := by
  obtain ⟨ds, hread, -⟩ := read_eq_ok_iff.mp (parse_eq_ok_iff.mp h)
  obtain ⟨c, es, hcs, hblank⟩ := hread.head
  have hc : c ∈ skipBlanks text.toList := by
    rw [hcs]
    exact List.mem_cons_self
  refine List.all_eq_false.mpr ⟨c, (List.dropWhile_suffix isBlank).subset hc, ?_⟩
  rw [hblank]
  exact Bool.false_ne_true

end Json

/-! ## Sources -/

variable {text : String} {ms : List (String × Json)} {hint : Option Format}

theorem Source.read_of_parse (htext : Json.parse text = .ok (.object ms))
    (hhint : hint ≠ some .yaml) : Source.read text hint = .ok (Json.object ms).toValue := by
  unfold Source.read Document.ofText
  split
  next => exact absurd rfl hhint
  next =>
    rw [htext]
    rfl

/-- **What is loaded does not depend on where it is loaded from.**  A text that is JSON for a
mapping is loaded as that mapping from the standard input, whether its line ends are left alone
there or not, from a file whose suffix is no mark of YAML, where they become line feeds, and from an
address that answers it with success and without calling it YAML. -/
theorem Source.load_of_parse (s : Surroundings) (htext : Json.parse text = .ok (.object ms)) :
    (s.input = text ∨ s.input = String.ofList (withLineFeeds text.toList) →
        (ofText "-").load s = .ok (Json.object ms).toValue) ∧
      (∀ path, ofText path = .file path → s.files.text? (Path.ofText path) = some text →
        Format.hint? (Path.ofText path).suffix ≠ some .yaml →
          (ofText path).load s = .ok (Json.object ms).toValue) ∧
      (∀ url status contentType body, ofText url = .address url →
        s.fetch url = .answer status contentType body → 200 ≤ status → status < 300 →
        ContentType.bodyText contentType body = .ok text →
        Format.hint? contentType ≠ some .yaml →
          (ofText url).load s = .ok (Json.object ms).toValue) := by
  have hfeeds := Json.parse_withLineFeeds htext
  refine ⟨?_, ?_, ?_⟩
  · intro hinput
    obtain ⟨t, ht, hparse⟩ : ∃ t : String, s.input = t ∧ Json.parse t = .ok (.object ms) := by
      rcases hinput with h | h
      · exact ⟨_, h, htext⟩
      · exact ⟨_, h, hfeeds⟩
    show loadInput s = _
    simp only [loadInput, ht, Json.isBlankText_of_parse hparse]
    exact read_of_parse hparse (by decide)
  · intro path hpath hfile hhint
    have hread : s.files.read? (Path.ofText path) =
        some (.text (String.ofList (withLineFeeds text.toList))) := by
      rw [FileTree.read?, FileTree.contents?_eq_some_of_text? hfile]
      rfl
    rw [hpath, load, loadFile]
    simp only [hread, Json.isBlankText_of_parse hfeeds]
    exact read_of_parse hfeeds hhint
  · intro url status contentType body hurl hanswer hlow hhigh hbody hhint
    rw [hurl, load, loadAddress]
    simp only [hanswer, if_pos (And.intro hlow hhigh), hbody]
    exact read_of_parse htext hhint

/-- A document with line ends of every kind. -/
def mixedLines : String :=
  "\r\n\x7b\"info\":\r\x7b\"title\": \"a\\r\\nb\"\x7d,\n\"n\":\r[1,\n\r-2]\x7d\r"

/-- What `mixedLines` holds. -/
def mixedMembers : List (String × Json) :=
  [("info", .object [("title", .text "a\r\nb")]), ("n", .array [.int 1, .int (-2)])]

/-- Surroundings with `mixedLines` everywhere. -/
def mixedSurroundings : Surroundings where
  files := FileTree.ofFiles [("specs/api.json", mixedLines)]
  input := mixedLines
  fetch _ := .answer 200 "application/json" mixedLines.toUTF8.toList

theorem parse_mixedLines : Json.parse mixedLines = .ok (.object mixedMembers) := by
  have hprinted : (Json.parse mixedLines).map
      (fun j => (j.render, j.hasDistinctKeys, j.isShort)) =
        .ok ((Json.object mixedMembers).render, true, true) := by decide +kernel
  obtain ⟨j, hj, heq⟩ := Attempt.map_eq_ok.mp hprinted
  obtain ⟨hrender, hkeys, hshort⟩ := And.imp_right Prod.mk.inj (Prod.mk.inj heq)
  rw [hj, Json.eq_of_render_eq hkeys hshort (by decide +kernel) (by decide +kernel) hrender]

theorem Source.load_of_parse_mixed :
    Json.parse mixedLines = .ok (.object mixedMembers) ∧
      (ofText "-").load mixedSurroundings = .ok (Json.object mixedMembers).toValue ∧
      (ofText "specs/api.json").load mixedSurroundings = .ok (Json.object mixedMembers).toValue ∧
      (ofText "http://h/api").load mixedSurroundings = .ok (Json.object mixedMembers).toValue := by
  have hfile : mixedSurroundings.files.text? (Path.ofText "specs/api.json") = some mixedLines := by
    decide +kernel
  have hbody : ContentType.bodyText "application/json" mixedLines.toUTF8.toList =
      .ok mixedLines := by decide +kernel
  obtain ⟨hfromInput, hfromFile, hfromAddress⟩ := load_of_parse mixedSurroundings parse_mixedLines
  exact ⟨parse_mixedLines, hfromInput (.inl rfl),
    hfromFile _ (by decide +kernel) hfile (by decide +kernel),
    hfromAddress _ 200 _ _ (by decide +kernel) rfl (by decide) (by decide) hbody
      (by decide +kernel)⟩

end ServiceCatalog
