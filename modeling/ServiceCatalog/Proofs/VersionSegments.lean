import ServiceCatalog.Naming.OperationName
import ServiceCatalog.Proofs.ReservedNames
import ServiceCatalog.Proofs.Segments
import ServiceCatalog.Proofs.SettledNames

/-!
# Names made from the segments of a path

Without an id, an operation is named after its method and its path.  The version of the interface is
no part of the name, and neither are the placeholders.  Both are erased from the path as a whole,
the version first: from the start of its segment to the slash behind it.  The name can also be read
off the segments one by one (`keptWords`): drop those that hold the version placeholder, take the
parts in braces out of the others, and join them by hyphens.

This file compares the two.

* `erase_versionSegment_join`: every segment with the version placeholder is erased, with its slash,
  except for the last one, which has no slash behind it.
* `erase_bracketed_append`: if braces are closed within their segment, they are erased segment by
  segment.
* `identify_append_hyphen_eq_iff`: the segment that is left at the end changes the name exactly if
  it adds a letter or a digit to it.

Both erasures walk over the path from left to right.  What they find begins in a segment and ends in
it or with its slash, so after each segment the walk begins anew.
-/

namespace ServiceCatalog

namespace Naming

open Text

variable {placeholder segment rest : List Char}

/-! ## The version -/

theorem prefix_append_slash_iff (hslash : '/' ∉ placeholder) :
    placeholder <+: segment ++ '/' :: rest ↔ placeholder <+: segment := by
  refine ⟨fun h => ?_, fun h => h.trans (List.prefix_append _ _)⟩
  rcases Nat.lt_or_ge segment.length placeholder.length with hlt | hle
  · -- a longer placeholder would reach over the slash
    have hreach : segment ++ ['/'] <+: placeholder := by
      refine List.prefix_of_prefix_length_le ⟨rest, by simp⟩ h ?_
      rw [List.length_append]
      exact hlt
    exact absurd (hreach.subset (by simp)) hslash
  · exact List.prefix_of_prefix_length_le h (List.prefix_append _ _) hle

theorem map_placeholderToSlash_append (ds : List Char) :
    (placeholderToSlash placeholder (placeholder ++ ds)).map Subtype.val =
      (through '/' ds).map Subtype.val := by
  obtain ⟨hle, hbehind⟩ := exists_behind_append placeholder ds
  rw [placeholderToSlash, hbehind, Option.bind_some, Option.map_map]
  rfl

theorem placeholderToSlash_eq_none {cs : List Char} (h : ¬ placeholder <+: cs) :
    placeholderToSlash placeholder cs = none := by
  rw [placeholderToSlash, behind_eq_none h]
  rfl

/-- A segment is found with the placeholder at its start, or from the next character on. -/
theorem map_versionSegment_cons (placeholder : List Char) (c : Char) (cs : List Char) :
    (versionSegment placeholder (c :: cs)).map Subtype.val =
      ((placeholderToSlash placeholder (c :: cs)).map Subtype.val).or
        (if c = '/' then none else (versionSegment placeholder cs).map Subtype.val) := by
  have hcons : versionSegment placeholder (c :: cs) =
      (placeholderToSlash placeholder (c :: cs)).or
        (if c = '/' then none
          else (versionSegment placeholder cs).map fun t => ⟨t.1, Nat.lt_succ_of_lt t.2⟩) := rfl
  rw [hcons, Option.map_or]
  split
  · rfl
  · rw [Option.map_map]
    rfl

theorem versionSegment_cons_eq_none {c : Char} {cs : List Char}
    (hfirst : placeholderToSlash placeholder (c :: cs) = none)
    (h : c ≠ '/' → versionSegment placeholder cs = none) :
    versionSegment placeholder (c :: cs) = none := by
  rw [← Option.map_eq_none_iff (f := Subtype.val), map_versionSegment_cons, hfirst,
    Option.map_none, Option.none_or]
  split
  · rfl
  · rw [h ‹_›, Option.map_none]

/-- Where the placeholder comes next, the rest of the segment is found with its slash. -/
theorem map_versionSegment_of_prefix (h : placeholder <+: segment) (hslash : '/' ∉ segment)
    (hline : '\n' ∉ segment) (rest : List Char) :
    (versionSegment placeholder (segment ++ '/' :: rest)).map Subtype.val = some rest := by
  have hfirst : ∀ {cs : List Char},
      (placeholderToSlash placeholder cs).map Subtype.val = some rest →
      (versionSegment placeholder cs).map Subtype.val = some rest := by
    intro cs hcs
    cases cs with
    | nil => exact hcs
    | cons c cs => rw [map_versionSegment_cons, hcs, Option.some_or]
  obtain ⟨ds, rfl⟩ := h
  rw [List.mem_append, not_or] at hslash hline
  refine hfirst ?_
  rw [List.append_assoc, map_placeholderToSlash_append, map_through_append hslash.2 hline.2]

/-- A segment with the placeholder in it is found from its start on, with its slash. -/
theorem map_versionSegment_of_infix (hplaceholder : '/' ∉ placeholder)
    (h : placeholder <:+: segment) (hslash : '/' ∉ segment) (hline : '\n' ∉ segment)
    (rest : List Char) :
    (versionSegment placeholder (segment ++ '/' :: rest)).map Subtype.val = some rest := by
  induction segment with
  | nil =>
    have hnil := List.infix_nil.mp h
    exact map_versionSegment_of_prefix (hnil ▸ List.nil_prefix) hslash hline rest
  | cons c segment ih =>
    by_cases hprefix : placeholder <+: c :: segment
    · exact map_versionSegment_of_prefix hprefix hslash hline rest
    · have hinfix := (List.infix_cons_iff.mp h).resolve_left hprefix
      have hnone : placeholderToSlash placeholder (c :: (segment ++ '/' :: rest)) = none := by
        refine placeholderToSlash_eq_none fun hp => hprefix ?_
        exact (@prefix_append_slash_iff placeholder (c :: segment) rest hplaceholder).mp hp
      rw [List.mem_cons, not_or] at hslash hline
      rw [List.cons_append, map_versionSegment_cons, hnone, Option.map_none, Option.none_or,
        if_neg (Ne.symm hslash.1)]
      exact ih hinfix hslash.2 hline.2

/-- A segment without the placeholder is not found, wherever one looks in it. -/
theorem versionSegment_eq_none (hplaceholder : '/' ∉ placeholder)
    (h : ¬ placeholder <:+: segment) (rest : List Char) :
    versionSegment placeholder (segment ++ '/' :: rest) = none := by
  have hprefix : placeholderToSlash placeholder (segment ++ '/' :: rest) = none :=
    placeholderToSlash_eq_none fun hp => h ((prefix_append_slash_iff hplaceholder).mp hp).isInfix
  induction segment with
  | nil =>
    exact versionSegment_cons_eq_none hprefix fun hne => absurd rfl hne
  | cons c segment ih =>
    have hsegment : ¬ placeholder <:+: segment := fun hi => h (List.infix_cons hi)
    have hrest : placeholderToSlash placeholder (segment ++ '/' :: rest) = none :=
      placeholderToSlash_eq_none fun hp =>
        hsegment ((prefix_append_slash_iff hplaceholder).mp hp).isInfix
    exact versionSegment_cons_eq_none hprefix fun _ => ih hsegment hrest

/-- The end of a path, behind its last slash, is not found. -/
theorem versionSegment_of_last (h : '/' ∉ segment) : versionSegment placeholder segment = none := by
  have hnone : ∀ {cs : List Char}, '/' ∉ cs → placeholderToSlash placeholder cs = none := by
    intro cs hcs
    by_cases hp : placeholder <+: cs
    · obtain ⟨ds, rfl⟩ := hp
      rw [← Option.map_eq_none_iff (f := Subtype.val), map_placeholderToSlash_append,
        through_eq_none fun hmem => hcs (List.mem_append_right _ hmem)]
      rfl
    · exact placeholderToSlash_eq_none hp
  induction segment with
  | nil => exact hnone h
  | cons c segment ih =>
    have hfirst := hnone h
    rw [List.mem_cons, not_or] at h
    exact versionSegment_cons_eq_none hfirst fun _ => ih h.2

/-- **The version is erased from every segment but the last.** -/
theorem erase_versionSegment_join (hplaceholder : '/' ∉ placeholder) {front : List (List Char)}
    {last : List Char} (hslash : ∀ s ∈ front ++ [last], '/' ∉ s)
    (hline : ∀ s ∈ front ++ [last], '\n' ∉ s) :
    erase (versionSegment placeholder) (join ['/'] (front ++ [last])) =
      join ['/'] (front.filter (fun s => ¬ placeholder <:+: s) ++ [last]) := by
  induction front with
  | nil =>
    have hlast := hslash last (List.mem_singleton_self last)
    have hnone : ∀ es, es ≠ [] → es <:+ last → versionSegment placeholder (es ++ []) = none := by
      intro es _ hes
      rw [List.append_nil]
      exact versionSegment_of_last fun hmem => hlast (hes.subset hmem)
    have hstays := erase_append_of_eq_none hnone
    rw [List.append_nil, erase, versionSegment_of_last List.not_mem_nil, List.append_nil] at hstays
    exact hstays
  | cons s front ih =>
    have hrest := ih (fun t ht => hslash t (List.mem_cons_of_mem s ht)) fun t ht =>
      hline t (List.mem_cons_of_mem s ht)
    have hs := hslash s List.mem_cons_self
    rw [List.cons_append, join_cons (List.concat_ne_nil last front), List.append_assoc,
      List.singleton_append]
    by_cases hversion : placeholder <:+: s
    · have hfound := map_versionSegment_of_infix hplaceholder hversion hs
        (hline s List.mem_cons_self) (join ['/'] (front ++ [last]))
      rw [erase_of_map_eq_some hfound, hrest, List.filter_cons_of_neg (by simpa using hversion)]
    · have hnone : ∀ es, es ≠ [] → es <:+ s ++ ['/'] →
          versionSegment placeholder (es ++ join ['/'] (front ++ [last])) = none := by
        intro es hne hes
        obtain ⟨ds, rfl, hds⟩ : ∃ ds, es = ds ++ ['/'] ∧ ds <:+ s := by
          rcases List.suffix_concat_iff.mp hes with h | ⟨ds, hds, hsuffix⟩
          · exact absurd h hne
          · exact ⟨ds, hds, hsuffix⟩
        rw [List.append_assoc, List.singleton_append]
        exact versionSegment_eq_none hplaceholder (fun hi => hversion (hi.trans hds.isInfix)) _
      rw [← List.singleton_append, ← List.append_assoc, erase_append_of_eq_none hnone, hrest,
        List.filter_cons_of_pos (by simpa using hversion), List.cons_append,
        join_cons (List.concat_ne_nil last _)]

/-! ## Braces -/

/-- A text without its parts in braces; the flag says that the text begins inside of one. -/
def outsideBraces : (inside : Bool) → List Char → List Char
  | _, [] => []
  | false, c :: cs => if c = '\x7b' then outsideBraces true cs else c :: outsideBraces false cs
  | true, c :: cs => outsideBraces (c ≠ '\x7d') cs

/-- Every opening brace of a segment is closed in the segment. -/
def BracesClose (segment : List Char) : Prop :=
  ∀ before after, segment = before ++ '\x7b' :: after → '\x7d' ∈ after

theorem bracesClose_nil : BracesClose [] := fun before after h => by simp at h

theorem bracesClose_cons_iff {c : Char} {cs : List Char} :
    BracesClose (c :: cs) ↔ (c = '\x7b' → '\x7d' ∈ cs) ∧ BracesClose cs := by
  constructor
  · intro h
    refine ⟨fun hc => h [] cs (by rw [hc]; rfl), ?_⟩
    rintro before after rfl
    exact h (c :: before) after rfl
  · rintro ⟨hc, hcs⟩ before after heq
    cases before with
    | nil =>
      cases heq
      exact hc rfl
    | cons d before =>
      cases heq
      exact hcs before after rfl

instance instDecidableBracesClose : (cs : List Char) → Decidable (BracesClose cs)
  | [] => isTrue bracesClose_nil
  | _ :: cs =>
    have := instDecidableBracesClose cs
    decidable_of_iff _ bracesClose_cons_iff.symm

theorem BracesClose.of_append (cs : List Char) {ds : List Char} (h : BracesClose (cs ++ ds)) :
    BracesClose ds := by
  rintro before after rfl
  exact h (cs ++ before) after (List.append_assoc _ _ _).symm

theorem outsideBraces_inside {cs : List Char} (h : '\x7d' ∉ cs) (ds : List Char) :
    outsideBraces true (cs ++ '\x7d' :: ds) = outsideBraces false ds := by
  induction cs with
  | nil => rfl
  | cons c cs ih =>
    rw [List.mem_cons, not_or] at h
    rw [List.cons_append, outsideBraces, decide_eq_true (Ne.symm h.1)]
    exact ih h.2

theorem mem_of_mem_outsideBraces {inside : Bool} {cs : List Char} {c : Char}
    (h : c ∈ outsideBraces inside cs) : c ∈ cs := by
  induction cs generalizing inside with
  | nil => cases inside <;> cases h
  | cons d cs ih =>
    cases inside with
    | true => exact List.mem_cons_of_mem d (ih h)
    | false =>
      rw [outsideBraces] at h
      split at h
      · exact List.mem_cons_of_mem d (ih h)
      · rcases List.mem_cons.mp h with rfl | h
        · exact List.mem_cons_self
        · exact List.mem_cons_of_mem d (ih h)

/-- **Braces are erased in each segment on its own**, if they close in it. -/
theorem erase_bracketed_append (hclose : BracesClose segment) (hline : '\n' ∉ segment)
    (rest : List Char) :
    erase (bracketed '\x7b' '\x7d') (segment ++ rest) =
      outsideBraces false segment ++ erase (bracketed '\x7b' '\x7d') rest := by
  -- a part in braces is left behind as a whole, so the induction is on the length
  induction hlen : segment.length using Nat.strongRecOn generalizing segment with
  | _ n ih =>
    cases segment with
    | nil => rfl
    | cons c cs =>
      by_cases hc : c = '\x7b'
      · subst hc
        obtain ⟨inside, after, rfl, hinside⟩ := List.eq_append_cons_of_mem (hclose [] cs rfl)
        rw [List.mem_cons, List.mem_append, List.mem_cons, not_or, not_or, not_or] at hline
        have hfound : (bracketed '\x7b' '\x7d'
            ('\x7b' :: (inside ++ '\x7d' :: (after ++ rest)))).map Subtype.val =
              some (after ++ rest) := by
          rw [bracketed, if_pos rfl, Option.map_map]
          exact map_through_append hinside hline.2.1 (after ++ rest)
        have hafter : BracesClose after := by
          refine BracesClose.of_append ('\x7b' :: inside ++ ['\x7d']) ?_
          simpa using hclose
        have hrest := ih after.length (by simp at hlen; omega) hafter hline.2.2.2 rfl
        rw [List.cons_append, List.append_assoc, List.cons_append, erase_of_map_eq_some hfound,
          hrest, outsideBraces, if_pos rfl, outsideBraces_inside hinside]
      · rw [List.mem_cons, not_or] at hline
        have hcs : BracesClose cs := BracesClose.of_append [c] hclose
        have hrest := ih cs.length (by simp at hlen; omega) hcs hline.2 rfl
        rw [List.cons_append, erase, bracketed, if_neg hc, outsideBraces, if_neg hc]
        exact congrArg (c :: ·) hrest

theorem erase_bracketed_join {ws : List (List Char)} (hclose : ∀ w ∈ ws, BracesClose w)
    (hline : ∀ w ∈ ws, '\n' ∉ w) :
    erase (bracketed '\x7b' '\x7d') (join ['/'] ws) =
      join ['/'] (ws.map (outsideBraces false)) := by
  have hnil : erase (bracketed '\x7b' '\x7d') [] = [] := by rw [erase, bracketed]
  induction ws with
  | nil => exact hnil
  | cons w ws ih =>
    have hw := erase_bracketed_append (hclose w List.mem_cons_self) (hline w List.mem_cons_self)
    cases ws with
    | nil =>
      have hlast := hw []
      rwa [hnil, List.append_nil, List.append_nil] at hlast
    | cons v ws =>
      have hrest := ih (fun u hu => hclose u (List.mem_cons_of_mem w hu)) fun u hu =>
        hline u (List.mem_cons_of_mem w hu)
      have hslash : ∀ cs, erase (bracketed '\x7b' '\x7d') ('/' :: cs) =
          '/' :: erase (bracketed '\x7b' '\x7d') cs := by
        intro cs
        rw [erase, bracketed, if_neg (by decide)]
      have hne : (v :: ws).map (outsideBraces false) ≠ [] := List.cons_ne_nil _ _
      rw [join_cons (List.cons_ne_nil v ws), List.append_assoc, hw, List.singleton_append, hslash,
        hrest, List.map_cons (l := v :: ws), join_cons hne, List.append_assoc,
        List.singleton_append]

/-! ## The words of a path -/

/-- The segments of a path that do not hold the version placeholder, without their parts in braces,
joined by hyphens. -/
def keptWords (placeholder path : List Char) : List Char :=
  join ['-'] (((split '/' path).filter fun s => ¬ placeholder <:+: s).map (outsideBraces false))

/-- **What a name is made of**, segment by segment: the last segment is kept whatever it holds. -/
theorem pathWords_eq {path : List Char} (hplaceholder : '/' ∉ placeholder) (hline : '\n' ∉ path)
    (hclose : ∀ s ∈ split '/' path, BracesClose s) {front : List (List Char)} {last : List Char}
    (hsplit : split '/' path = front ++ [last]) :
    pathWords placeholder path =
      join ['-'] ((front.filter (fun s => ¬ placeholder <:+: s) ++ [last]).map
        (outsideBraces false)) := by
  have hslash : ∀ s ∈ front ++ [last], '/' ∉ s := fun s hs => notMem_of_mem_split (hsplit ▸ hs)
  have hlines : ∀ s ∈ front ++ [last], '\n' ∉ s := fun s hs hmem =>
    hline (mem_of_mem_split (hsplit ▸ hs) hmem)
  have hkept : ∀ s ∈ front.filter (fun s => ¬ placeholder <:+: s) ++ [last],
      s ∈ front ++ [last] := fun s hs =>
    (List.filter_sublist.append_right [last]).subset hs
  have hbare : ∀ w ∈ (front.filter (fun s => ¬ placeholder <:+: s) ++ [last]).map
      (outsideBraces false), '/' ∉ w := by
    intro w hw hmem
    obtain ⟨s, hs, rfl⟩ := List.mem_map.mp hw
    exact hslash s (hkept s hs) (mem_of_mem_outsideBraces hmem)
  have hpath : path = join ['/'] (front ++ [last]) := by rw [← hsplit, join_split]
  rw [pathWords, hpath, erase_versionSegment_join hplaceholder hslash hlines,
    erase_bracketed_join (fun s hs => hclose s (hsplit ▸ hkept s hs))
      fun s hs => hlines s (hkept s hs), map_join hbare]

/-! ## A word at the end of a name -/

section lastWord

variable {cs ds : List Char}

theorem casedBehind_eq_nil_iff (a : Char) : casedBehind a ds = [] ↔ Wordless ds := by
  have hlength := (forall₂_casedBehind a ds).length_eq
  rw [← List.length_eq_zero_iff, ← hlength, List.length_eq_zero_iff, List.filter_eq_nil_iff]
  exact forall₂_congr fun c _ => Bool.not_eq_true _ ▸ Iff.rfl

/-- Without a letter before it, a text is a name of its own. -/
theorem identify_append_of_letterless (h : ∀ c ∈ cs, c.isAlpha = false) (ds : List Char) :
    identify (cs ++ ds) = identify ds := by
  have hdrop : (cs ++ ds).dropWhile (fun c => !c.isAlpha) = ds.dropWhile fun c => !c.isAlpha :=
    List.dropWhile_append_of_pos fun c hc => by rw [h c hc]; rfl
  rw [identify, identify, hdrop]

/-- Behind a letter, a text is added to the name. -/
theorem identify_append_of_letter (h : ∃ c ∈ cs, c.isAlpha = true) (ds : List Char) :
    identify (cs ++ '-' :: ds) = identify cs ++ casedBehind '-' ds := by
  obtain ⟨a, es, hes⟩ := exists_fromLetter h
  have hboth : fromLetter (cs ++ '-' :: ds) = a :: (es ++ '-' :: ds) := by
    rw [fromLetter_append h, hes, List.cons_append]
  rw [identify_of_fromLetter hes, identify_of_fromLetter hboth, casedBehind_append_hyphen,
    List.cons_append]

theorem letter_or_letterless (cs : List Char) :
    (∃ c ∈ cs, c.isAlpha = true) ∨ ∀ c ∈ cs, c.isAlpha = false := by
  by_cases h : ∃ c ∈ cs, c.isAlpha = true
  · exact .inl h
  · exact .inr fun c hc => Bool.eq_false_iff.mpr fun hletter => h ⟨c, hc, hletter⟩

/-- Two hyphens separate as one does. -/
theorem identify_append_hyphens (cs ds : List Char) :
    identify (cs ++ '-' :: '-' :: ds) = identify (cs ++ '-' :: ds) := by
  rcases letter_or_letterless cs with h | h
  · rw [identify_append_of_letter h, identify_append_of_letter h, casedBehind_skip rfl]
  · have hhyphen : ∀ es, identify ('-' :: es) = identify es := fun es =>
      @identify_append_of_letterless ['-'] (by simp) es
    rw [identify_append_of_letterless h, identify_append_of_letterless h, hhyphen]

/-- **A word at the end leaves a name alone** if it has neither letters nor digits, or if nothing in
the name so far or in the word is a letter. -/
theorem identify_append_hyphen_eq_iff : identify (cs ++ '-' :: ds) = identify cs ↔
    Wordless ds ∨ ∀ c ∈ cs ++ ds, c.isAlpha = false := by
  rcases letter_or_letterless cs with h | h
  · rw [identify_append_of_letter h, List.append_right_eq_self, casedBehind_eq_nil_iff]
    obtain ⟨c, hc, hletter⟩ := h
    refine (or_iff_left fun hall => ?_).symm
    rw [hall c (List.mem_append_left ds hc)] at hletter
    cases hletter
  · have hfront : ∀ c ∈ cs ++ ['-'], c.isAlpha = false := by
      intro c hc
      rcases List.mem_append.mp hc with hc | hc
      · exact h c hc
      · rw [List.mem_singleton.mp hc]
        rfl
    have hcs := identify_append_of_letterless h []
    have hds := identify_append_of_letterless hfront ds
    rw [List.append_assoc, List.singleton_append] at hds
    rw [List.append_nil, identify_nil] at hcs
    rw [hds, hcs, identify_eq_nil_iff, fromLetter, List.dropWhile_eq_nil_iff]
    constructor
    · intro hletterless
      right
      intro c hc
      rcases List.mem_append.mp hc with hc | hc
      · exact h c hc
      · simpa using hletterless c hc
    · rintro (hwordless | hletterless) c hc
      · rw [Bool.not_eq_true', Bool.eq_false_iff]
        intro hletter
        have hnone := hwordless c hc
        rw [isAlphanum_of_isAlpha hletter] at hnone
        cases hnone
      · rw [hletterless c (List.mem_append_right cs hc)]
        rfl

end lastWord

/-! ## Names -/

/-- The last segment is a word behind the others. -/
theorem identify_join_append (method : List Char) (kept : List (List Char)) (last : List Char) :
    identify (method ++ '-' :: join ['-'] (kept ++ [last])) =
      identify ((method ++ '-' :: join ['-'] kept) ++ '-' :: last) := by
  cases kept with
  | nil =>
    have hhyphens := identify_append_hyphens method last
    rw [List.nil_append, join, join, List.append_assoc, List.singleton_append, hhyphens]
  | cons w ws =>
    rw [join_append_singleton (List.cons_ne_nil w ws)]
    simp only [List.append_assoc, List.cons_append, List.nil_append]

/-- The text that a method and the segments of a path give a name to. -/
def segmentText (method path placeholder : String) : String :=
  method ++ "-" ++ String.ofList (keptWords placeholder.toList path.toList)

theorem toList_segmentText (method path placeholder : String) :
    (segmentText method path placeholder).toList =
      method.toList ++ '-' :: keptWords placeholder.toList path.toList := by
  simp [segmentText]

/-- What the last segment of a path holds beside its parts in braces. -/
def lastWord (path : String) : String :=
  String.ofList (outsideBraces false (afterLast '/' path.toList))

/-- **The version disappears from a name, unless it stands at the end of the path.**  Without an id,
an operation is named after its method and the segments without the version placeholder, each
without its parts in braces.  If the last segment holds the placeholder, what else it holds is a
further word of the name.  That leaves the name alone exactly if the word has neither letters nor
digits, or if nothing in it or in front of it is a letter. -/
theorem operationName_of_segments (path method placeholder : String) (reserved : List String)
    (hplaceholder : '/' ∉ placeholder.toList) (hline : '\n' ∉ path.toList)
    (hclose : ∀ s ∈ split '/' path.toList, BracesClose s) :
    (¬ placeholder.toList <:+: afterLast '/' path.toList →
      operationName path method none reserved placeholder =
        identifier (segmentText method path placeholder)) ∧
    (placeholder.toList <:+: afterLast '/' path.toList →
      operationName path method none reserved placeholder =
        identifier (segmentText method path placeholder ++ "-" ++ lastWord path)) ∧
    (operationName path method none reserved placeholder =
        identifier (segmentText method path placeholder) ↔
      ¬ placeholder.toList <:+: afterLast '/' path.toList ∨ Wordless (lastWord path).toList ∨
        ∀ c ∈ (segmentText method path placeholder ++ lastWord path).toList,
          c.isAlpha = false) := by
  obtain ⟨front, hsplit⟩ := exists_split_eq_append '/' path.toList
  have hname : operationName path method none reserved placeholder =
      String.ofList (identify (method.toList ++ '-' ::
        join ['-'] ((front.filter (fun s => ¬ placeholder.toList <:+: s) ++
          [afterLast '/' path.toList]).map (outsideBraces false)))) := by
    rw [operationName, synthesizedName, pathWords_eq hplaceholder hline hclose hsplit]
  have hkept : ¬ placeholder.toList <:+: afterLast '/' path.toList →
      operationName path method none reserved placeholder =
        identifier (segmentText method path placeholder) := by
    intro hlast
    rw [hname, identifier, toList_segmentText, keptWords, hsplit, List.filter_append,
      List.filter_cons_of_pos (by simpa using hlast), List.filter_nil]
  have htext : (segmentText method path placeholder ++ "-" ++ lastWord path).toList =
      (segmentText method path placeholder).toList ++ '-' :: (lastWord path).toList := by
    rw [String.toList_append, String.toList_append, List.append_assoc]
    rfl
  have hadded : placeholder.toList <:+: afterLast '/' path.toList →
      operationName path method none reserved placeholder =
        identifier (segmentText method path placeholder ++ "-" ++ lastWord path) := by
    intro hlast
    rw [hname, List.map_append, List.map_singleton, identify_join_append, identifier, htext,
      toList_segmentText, keptWords, hsplit, List.filter_append,
      List.filter_cons_of_neg (by simpa using hlast), List.filter_nil, List.append_nil, lastWord,
      String.toList_ofList]
  refine ⟨hkept, hadded, ?_⟩
  by_cases hlast : placeholder.toList <:+: afterLast '/' path.toList
  · rw [hadded hlast, identifier, identifier, String.ofList_inj, htext,
      identify_append_hyphen_eq_iff, String.toList_append]
    exact (or_iff_right (not_not_intro hlast)).symm
  · exact iff_of_true (hkept hlast) (.inl hlast)

/-- A version in the first segment, and a placeholder at the end. -/
def samplePath : String := "/v\x7bapi-version\x7d/users/\x7bid\x7d"

theorem operationName_samplePath :
    '/' ∉ defaultVersionPlaceholder.toList ∧ '\n' ∉ samplePath.toList ∧
      (∀ s ∈ split '/' samplePath.toList, BracesClose s) ∧
      operationName samplePath "get" none = "getUsers" := by
  have hslash : '/' ∉ defaultVersionPlaceholder.toList := by decide
  have hline : '\n' ∉ samplePath.toList := by decide
  have hclose : ∀ s ∈ split '/' samplePath.toList, BracesClose s := by decide
  refine ⟨hslash, hline, hclose, ?_⟩
  have hlast : ¬ defaultVersionPlaceholder.toList <:+: afterLast '/' samplePath.toList := by decide
  rw [(operationName_of_segments samplePath "get" _ _ hslash hline hclose).1 hlast]
  decide +kernel

/-- **A version in the last segment does not disappear.**  Braces are closed, and still the segment
leaves a word behind. -/
theorem operationName_of_version_last :
    defaultVersionPlaceholder = "\x7b" ++ "api-version" ++ "\x7d" ∧
      (∀ s ∈ split '/' "/users/v\x7bapi-version\x7d".toList, BracesClose s) ∧
      operationName "/users/v\x7bapi-version\x7d" "get" none = "getUsersV" ∧
      identifier (segmentText "get" "/users/v\x7bapi-version\x7d" defaultVersionPlaceholder) =
        "getUsers" :=
  ⟨by decide, by decide, by decide +kernel, by decide +kernel⟩

end Naming
end ServiceCatalog
