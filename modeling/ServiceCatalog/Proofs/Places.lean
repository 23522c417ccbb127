import ServiceCatalog.Proofs.CamelCase
import ServiceCatalog.Proofs.Reach
import ServiceCatalog.Proofs.WrittenNumbers

/-!
# Places in a document

A place is where some steps lead from the root of a document: to what stands under a key of a
mapping, to an item of a list, and so on (`Value.at?`).  Its written form is a reference with one
segment for each step (`Pointer.written`).  Keys may hold anything, slashes and tildes included, and
nothing in a segment says whether it is a key or an index.  Still the written form of every place
leads to it (`resolve_written`).

The proof has three parts, one for each thing that is undone.

* The slashes between the segments are the only ones, so cutting at slashes gives the segments back
  (`split_segments`).
* A segment means the step that it was written for (`Denotes.isReadAs`): escapes are undone in one
  pass, and a decimal is read as the number that it writes (`integer?_of_isWhole`), since the index
  of an item has no more digits than the length of the list.
* What a segment means in a value is what following a reference takes it for (`step_eq_ok_iff`).

The last part holds of every reference and not only of written forms, so it is stated for the way
that a reference takes through a document (`Leads`).
-/

namespace ServiceCatalog

open Json (AllDigits IsWhole digitsValue)

/-- A step from a value to a part of it. -/
inductive Step where
  | key (name : String)
  | index (n : Nat)

namespace Value

/-- The part of a value that a step leads to. -/
def part? (v : Value) : Step → Option Value
  | .key name => v.field? name
  | .index n => v.items?.bind fun items => items[n]?

/-- What stands at the end of some steps. -/
def at? : Value → List Step → Option Value
  | v, [] => some v
  | v, s :: ss => (v.part? s).bind fun w => w.at? ss

theorem entries?_eq_none_of_items? {v : Value} {items : List Value} (h : v.items? = some items) :
    v.entries? = none := by
  induction v using items?.induct with
  | case1 items => rfl
  | case2 place v ih => exact ih h
  | case3 v hl hk => rw [items?.eq_3 v hl hk] at h; cases h

/-- A list has no keys. -/
theorem field?_of_items? {v : Value} {items : List Value} (h : v.items? = some items)
    (name : String) : v.field? name = none := by
  rw [field?, entries, entries?_eq_none_of_items? h]
  rfl

end Value

/-! ## Decimals -/

namespace Text

theorem digitValue?_of_isDigit {c : Char} (h : c.isDigit = true) :
    digitValue? c = some (c.toNat - 48) := by
  have hrange : 48 ≤ c.toNat ∧ c.toNat ≤ 57 := Char.isDigit_iff_toNat.mp h
  have hzero : 0x0030 ≤ c.toNat ∧ c.toNat ≤ 0x0030 + 9 := hrange
  rw [digitValue?, zeros, List.findSome?_cons, if_pos hzero]

theorem isNumberBlank_of_isDigit {c : Char} (h : c.isDigit = true) : isNumberBlank c = false := by
  have halnum : c.isAlphanum = true := by rw [Char.isAlphanum, h, Bool.or_true]
  have hseparator := Naming.isSeparator_of_isAlphanum halnum
  rw [Naming.isSeparator, Bool.or_eq_false_iff] at hseparator
  rw [isNumberBlank, hseparator.2, Bool.false_and]

theorem digitsToEnd?_of_allDigits {ds : List Char} (h : AllDigits ds) (n : Nat) :
    digitsToEnd? n ds = some (ds.foldl (fun n d => 10 * n + (d.toNat - 48)) n) := by
  induction ds generalizing n with
  | nil => rfl
  | cons c ds ih =>
    have hc : c.isDigit = true := h c List.mem_cons_self
    have hunderscore : ∀ d es, c = '_' → ds = d :: es → False := by
      rintro d es rfl -
      cases hc
    rw [digitsToEnd?.eq_3 _ _ _ hunderscore, digitValue?_of_isDigit hc, Option.bind_some,
      ih fun d hd => h d (List.mem_cons_of_mem c hd)]
    rfl

/-- Digits write the number that they are the digits of. -/
theorem integer?_of_allDigits {ds : List Char} (hne : ds ≠ []) (h : AllDigits ds) :
    integer? ds = some (digitsValue ds : Int) := by
  have hdrop : ∀ es : List Char, AllDigits es → es.dropWhile isNumberBlank = es := by
    intro es hes
    cases es with
    | nil => rfl
    | cons e es =>
      rw [List.dropWhile_cons_of_neg]
      rw [isNumberBlank_of_isDigit (hes e List.mem_cons_self)]
      exact Bool.false_ne_true
  have htrim : trimNumber ds = ds := by
    have hreverse : AllDigits ds.reverse := fun c hc => h c (List.mem_reverse.mp hc)
    rw [trimNumber, hdrop ds h, hdrop _ hreverse, List.reverse_reverse]
  obtain ⟨c, cs, rfl⟩ := List.exists_cons_of_ne_nil hne
  have hc : c.isDigit = true := h c List.mem_cons_self
  have hsigned : signed? (c :: cs) = (natural? (c :: cs)).map fun n => (n : Int) := by
    refine signed?.eq_3 _ ?_ ?_
    all_goals
      rintro ds heq
      cases heq
      cases hc
  rw [integer?, htrim, hsigned, natural?, digitValue?_of_isDigit hc, Option.bind_some,
    digitsToEnd?_of_allDigits fun d hd => h d (List.mem_cons_of_mem c hd), digitsValue,
    List.foldl_cons, Nat.mul_zero, Nat.zero_add]
  rfl

theorem allDigits_of_isWhole {ds : List Char} (h : IsWhole ds) : AllDigits ds := by
  cases h with
  | zero => exact Json.allDigits_zeros 1
  | digits hne hall => exact hall

/-- A decimal is read as the number that it writes. -/
theorem integer?_of_isWhole {ds : List Char} (h : IsWhole ds) :
    integer? ds = some (digitsValue ds : Int) := by
  have hne : ds ≠ [] := by
    rintro rfl
    cases h
  exact integer?_of_allDigits hne (allDigits_of_isWhole h)

end Text

namespace Pointer

open Text

variable {v w x : Value} {ref : String} {t : List Char} {s s' : Step}

/-! ## Segments -/

/-- The segment that is written for a step. -/
def segment : Step → List Char
  | .key name => escape name.toList
  | .index n => Nat.toDigits 10 n

/-- The written form of a place. -/
def written (steps : List Step) : String :=
  String.ofList ('#' :: steps.flatMap fun s => '/' :: segment s)

theorem slash_notMem_segment (s : Step) : '/' ∉ segment s := by
  cases s with
  | key name => exact slash_notMem_escape name.toList
  | index n =>
    intro hmem
    have hdigit := Json.allDigits_toDigits n '/' hmem
    cases hdigit

/-- The segments of a written form are those that it was written with. -/
theorem split_segments (s : Step) (ss : List Step) :
    split '/' (segment s ++ ss.flatMap fun s => '/' :: segment s) = (s :: ss).map segment := by
  induction ss generalizing s with
  | nil =>
    rw [List.flatMap_nil, List.append_nil, split_eq_singleton (slash_notMem_segment s)]
    rfl
  | cons s' ss ih =>
    rw [List.flatMap_cons, List.cons_append, split_append,
      split_eq_singleton (slash_notMem_segment s), ih]
    rfl

/-- Every tilde begins an escape. -/
def TildesEscape (t : List Char) : Prop :=
  ∀ i : Nat, t[i]? = some '~' → t[i + 1]? = some '0' ∨ t[i + 1]? = some '1'

theorem TildesEscape.cons {c : Char} (hc : c ≠ '~') (h : TildesEscape t) :
    TildesEscape (c :: t) := by
  intro i hi
  cases i with
  | zero => exact absurd (Option.some.inj hi) hc
  | succ i => exact h i hi

theorem tildesEscape_of_notMem (h : '~' ∉ t) : TildesEscape t :=
  fun _ hi => absurd (List.mem_of_getElem? hi) h

theorem tildesEscape_escape (cs : List Char) : TildesEscape (escape cs) := by
  have hescape : ∀ {d : Char} {t : List Char}, d = '0' ∨ d = '1' → TildesEscape t →
      TildesEscape ('~' :: d :: t) := by
    rintro d t hd ht (_ | _ | i) hi
    · rcases hd with rfl | rfl
      · exact .inl rfl
      · exact .inr rfl
    · rcases hd with rfl | rfl <;> cases hi
    · exact ht i hi
  induction cs with
  | nil => exact tildesEscape_of_notMem List.not_mem_nil
  | cons c cs ih =>
    rw [escape]
    split
    · exact hescape (.inl rfl) ih
    · split
      · exact hescape (.inr rfl) ih
      · exact ih.cons ‹_›

/-- A text without tildes stands for itself. -/
theorem unescape_eq_self (h : '~' ∉ t) : unescape t = t := by
  induction t with
  | nil => rfl
  | cons c t ih =>
    rw [List.mem_cons, not_or] at h
    have hc : ∀ d : Char, ∀ ds, c = '~' → t = d :: ds → False := fun _ _ heq _ => h.1 heq.symm
    rw [unescape.eq_4 _ _ (hc '1') (hc '0'), ih h.2]

theorem tilde_notMem_of_isWhole (h : IsWhole t) : '~' ∉ t := by
  intro hmem
  have hdigit := allDigits_of_isWhole h '~' hmem
  cases hdigit

/-- A decimal needs no escapes, and is read as the number that it writes. -/
theorem integer?_unescape (h : IsWhole t) :
    integer? (unescape t) = some (digitsValue t : Int) := by
  rw [unescape_eq_self (tilde_notMem_of_isWhole h), integer?_of_isWhole h]

theorem integer?_of_index? {length : Nat} {i : Int} (h : index? length t = some i) :
    integer? t = some i := by
  unfold index? at h
  split at h
  · exact h
  · cases h

/-- Every further digit makes a number at least ten times as large. -/
theorem mul_pow_length_le_foldl (ds : List Char) (n : Nat) :
    n * 10 ^ ds.length ≤ ds.foldl (fun n d => 10 * n + (d.toNat - 48)) n := by
  induction ds generalizing n with
  | nil => rw [List.length_nil, Nat.pow_zero, Nat.mul_one, List.foldl_nil]
  | cons d ds ih =>
    have hstep : 10 * n ≤ 10 * n + (d.toNat - 48) := Nat.le_add_right _ _
    calc n * 10 ^ (d :: ds).length
        = 10 * n * 10 ^ ds.length := by rw [List.length_cons, Nat.pow_succ]; ring
      _ ≤ (10 * n + (d.toNat - 48)) * 10 ^ ds.length := Nat.mul_le_mul_right _ hstep
      _ ≤ _ := ih _

/-- A decimal is not longer than that of a larger number. -/
theorem length_le_of_digitsValue_lt {n : Nat} (h : IsWhole t) (hn : digitsValue t < n) :
    t.length ≤ (Nat.toDigits 10 n).length := by
  cases h with
  | zero => exact Nat.length_toDigits_pos
  | @digits c ds hne hall =>
    have hpos : 1 ≤ 10 * 0 + (c.toNat - 48) := by
      have hc : 48 ≤ c.toNat ∧ c.toNat ≤ 57 :=
        Char.isDigit_iff_toNat.mp (hall c List.mem_cons_self)
      have hzero : c.toNat ≠ 48 := fun heq => hne (Char.ext (UInt32.toNat_inj.mp heq))
      omega
    have hlt : 10 ^ ds.length < 10 ^ (Nat.toDigits 10 n).length :=
      calc 10 ^ ds.length
          ≤ (10 * 0 + (c.toNat - 48)) * 10 ^ ds.length := Nat.le_mul_of_pos_left _ hpos
        _ ≤ digitsValue (c :: ds) := mul_pow_length_le_foldl ds _
        _ < n := hn
        _ < _ := Double.lt_pow_length n
    exact (Nat.pow_lt_pow_iff_right (by decide)).mp hlt

/-- A decimal is an index wherever there is an item at the number that it writes. -/
theorem index?_unescape {length : Nat} (h : IsWhole t) (hlength : digitsValue t < length) :
    index? length (unescape t) = some (digitsValue t : Int) := by
  have hdigits : (unescape t).countP isDigit ≤ max digitLimit (Nat.toDigits 10 length).length := by
    rw [unescape_eq_self (tilde_notMem_of_isWhole h)]
    exact (List.countP_le_length.trans (length_le_of_digitsValue_lt h hlength)).trans
      (Nat.le_max_right _ _)
  rw [index?, if_pos hdigits, integer?_unescape h]

/-- A segment stands for a step: a key with its tildes and slashes escaped, or a decimal without
leading zeros. -/
inductive Denotes : List Char → Step → Prop
  | key {t : List Char} (h : TildesEscape t) : Denotes t (.key (String.ofList (unescape t)))
  | index {t : List Char} (h : IsWhole t) : Denotes t (.index (digitsValue t))

theorem denotes_segment (s : Step) : Denotes (segment s) s := by
  cases s with
  | key name =>
    have h := Denotes.key (tildesEscape_escape name.toList)
    rwa [unescape_escape, String.ofList_toList] at h
  | index n =>
    have h := Denotes.index (Json.isWhole_toDigits n)
    rwa [Json.digitsValue_toDigits] at h

/-! ## What a segment is taken for -/

/-- What a segment is taken for where it is applied to a value.  In a mapping it is a key.  In a
list it is an integer in any written form of not too many digits, and a negative one counts from the
end. -/
inductive IsReadAs (v : Value) (t : List Char) : Step → Prop
  | key : IsReadAs v t (.key (String.ofList (unescape t)))
  | fromStart {items : List Value} {n : Nat} (hitems : v.items? = some items)
      (h : index? items.length (unescape t) = some (n : Int)) : IsReadAs v t (.index n)
  | fromEnd {items : List Value} {n k : Nat} (hitems : v.items? = some items)
      (h : index? items.length (unescape t) = some (-(k : Int))) (hk : 0 < k)
      (hn : n + k = items.length) : IsReadAs v t (.index n)

/-- A segment is taken for what it stands for, where that leads to something. -/
theorem Denotes.isReadAs (h : Denotes t s) (hpart : v.part? s = some w) : IsReadAs v t s := by
  cases h with
  | key => exact .key
  | index h =>
    obtain ⟨items, hitems, hitem⟩ := Option.bind_eq_some_iff.mp hpart
    exact .fromStart hitems (index?_unescape h (List.getElem?_eq_some_iff.mp hitem).1)

theorem item?_eq_some_iff {items : List Value} {i : Int} : item? items i = some w ↔
    ∃ n : Nat, items[n]? = some w ∧ (i = n ∨ ∃ k : Nat, i = -(k : Int) ∧ 0 < k ∧
      n + k = items.length) := by
  unfold item?
  by_cases hi : 0 ≤ i
  · rw [if_pos hi]
    constructor
    · exact fun h => ⟨i.toNat, h, .inl (Int.toNat_of_nonneg hi).symm⟩
    · rintro ⟨n, hn, rfl | ⟨k, rfl, hk, -⟩⟩
      · exact hn
      · omega
  · rw [if_neg hi]
    constructor
    · intro h
      split at h
      · rename_i hlen
        exact ⟨_, h, .inr ⟨i.natAbs, by omega, by omega, by omega⟩⟩
      · cases h
    · rintro ⟨n, hn, rfl | ⟨k, rfl, hk, hlen⟩⟩
      · omega
      · have hplace : ((items.length : Int) + -(k : Int)).toNat = n := by omega
        rw [if_pos (by omega), hplace]
        exact hn

/-- In a list, a segment is an index. -/
theorem step_of_items? {items : List Value} (h : v.items? = some items) (ref segment : String) :
    step ref v segment =
      match (index? items.length segment.toList).bind (item? items) with
      | some w => .ok w
      | none => .error (.badIndex ref segment) := by
  induction v using Value.items?.induct with
  | case1 items' =>
    cases h
    rfl
  | case2 place v ih => exact ih h
  | case3 v hl hk => rw [Value.items?.eq_3 v hl hk] at h; cases h

/-- Nothing stands below a value that is neither a mapping nor a list. -/
theorem step_ne_ok (hentries : v.entries? = none) (hitems : v.items? = none)
    (ref segment : String) : step ref v segment ≠ .ok w := by
  induction v using Value.items?.induct with
  | case1 items => cases hitems
  | case2 place v ih => exact ih hentries hitems
  | case3 v hl hk =>
    cases v with
    | mapping es => cases hentries
    | list items => exact absurd rfl (hl items)
    | knot place v => exact absurd rfl (hk place v)
    | _ =>
      intro h
      cases h

theorem step_eq_ok_iff_of_items? {items : List Value} (hitems : v.items? = some items) :
    step ref v (String.ofList (unescape t)) = .ok w ↔
      ∃ s, IsReadAs v t s ∧ v.part? s = some w := by
  have hindex : ∀ n, v.part? (.index n) = items[n]? := fun n => by
    rw [Value.part?, hitems]
    rfl
  rw [step_of_items? hitems, String.toList_ofList]
  constructor
  · intro h
    split at h
    · rename_i w' hfound
      cases h
      obtain ⟨i, hi, hw⟩ := Option.bind_eq_some_iff.mp hfound
      obtain ⟨n, hn, rfl | ⟨k, rfl, hk, hlen⟩⟩ := item?_eq_some_iff.mp hw
      · exact ⟨.index n, .fromStart hitems hi, (hindex n).trans hn⟩
      · exact ⟨.index n, .fromEnd hitems hi hk hlen, (hindex n).trans hn⟩
    · cases h
  · rintro ⟨s, hread, hpart⟩
    have hfound : (index? items.length (unescape t)).bind (item? items) = some w := by
      cases hread with
      | key =>
        rw [Value.part?, Value.field?_of_items? hitems] at hpart
        cases hpart
      | @fromStart items' n hitems' h =>
        cases hitems.symm.trans hitems'
        rw [h]
        exact item?_eq_some_iff.mpr ⟨n, (hindex n).symm.trans hpart, .inl rfl⟩
      | @fromEnd items' n k hitems' h hk hn =>
        cases hitems.symm.trans hitems'
        rw [h]
        exact item?_eq_some_iff.mpr ⟨n, (hindex n).symm.trans hpart, .inr ⟨k, rfl, hk, hn⟩⟩
    rw [hfound]

/-- Where there are no items, a segment is a key. -/
theorem step_eq_ok_iff_field? (hitems : v.items? = none) {segment : String} :
    step ref v segment = .ok w ↔ v.field? segment = some w := by
  refine ⟨fun h => ?_, fun h => step_of_field? h ref⟩
  cases hentries : v.entries? with
  | none => exact absurd h (step_ne_ok hentries hitems ref segment)
  | some es =>
    rw [step_of_isMapping (by rw [Value.isMapping, hentries]; rfl)] at h
    split at h
    · rename_i a ha
      cases h
      exact ha
    · cases h

/-- **One step of following a reference** leads to the part that the segment is taken for. -/
theorem step_eq_ok_iff : step ref v (String.ofList (unescape t)) = .ok w ↔
    ∃ s, IsReadAs v t s ∧ v.part? s = some w := by
  cases hitems : v.items? with
  | some items => exact step_eq_ok_iff_of_items? hitems
  | none =>
    have hindex : ∀ n, v.part? (.index n) = none := fun n => by
      rw [Value.part?, hitems]
      rfl
    rw [step_eq_ok_iff_field? hitems]
    constructor
    · exact fun h => ⟨_, .key, h⟩
    · rintro ⟨s, hread, hpart⟩
      cases hread with
      | key => exact hpart
      | @fromStart _ n => cases (hindex n).symm.trans hpart
      | @fromEnd _ n => cases (hindex n).symm.trans hpart

/-! ## The way of a reference -/

/-- Segments lead from a value to another one, being taken for some steps on the way. -/
inductive Leads : Value → List (List Char) → List Step → Value → Prop
  | nil (v : Value) : Leads v [] [] v
  | cons {v w x : Value} {t : List Char} {ts : List (List Char)} {s : Step} {ss : List Step}
      (hread : IsReadAs v t s) (hpart : v.part? s = some w) (h : Leads w ts ss x) :
      Leads v (t :: ts) (s :: ss) x

/-- A way leads to a place. -/
theorem Leads.at?_eq {ts : List (List Char)} {ss : List Step} (h : Leads v ts ss x) :
    v.at? ss = some x := by
  induction h with
  | nil v => rfl
  | cons hread hpart h ih =>
    rw [Value.at?, hpart]
    exact ih

/-- Segments that stand for the steps to a place lead to it. -/
theorem leads_of_denotes {ts : List (List Char)} {ss : List Step}
    (h : List.Forall₂ Denotes ts ss) (hplace : v.at? ss = some x) : Leads v ts ss x := by
  induction h generalizing v with
  | nil =>
    cases hplace
    exact .nil _
  | cons hhead htail ih =>
    obtain ⟨w, hpart, hrest⟩ := Option.bind_eq_some_iff.mp hplace
    exact .cons (hhead.isReadAs hpart) hpart (ih hrest)

theorem follow_eq_ok_iff {ts : List (List Char)} :
    follow ref v (ts.map fun t => String.ofList (unescape t)) = .ok x ↔
      ∃ ss, Leads v ts ss x := by
  induction ts generalizing v with
  | nil =>
    constructor
    · intro h
      cases h
      exact ⟨[], .nil _⟩
    · rintro ⟨ss, h⟩
      cases h
      rfl
  | cons t ts ih =>
    rw [List.map_cons, follow]
    refine Attempt.bind_eq_ok.trans ?_
    constructor
    · rintro ⟨w, hstep, hrest⟩
      obtain ⟨s, hread, hpart⟩ := step_eq_ok_iff.mp hstep
      obtain ⟨ss, hss⟩ := ih.mp hrest
      exact ⟨s :: ss, .cons hread hpart hss⟩
    · rintro ⟨ss, h⟩
      cases h with
      | cons hread hpart h => exact ⟨_, step_eq_ok_iff.mpr ⟨_, hread, hpart⟩, ih.mpr ⟨_, h⟩⟩

/-- **What a reference leads to.** -/
theorem resolve_eq_ok_iff {doc : Value} : resolve doc ref = .ok v ↔
    ref = "#" ∧ v = doc ∨
      ∃ path ss, ref.toList = '#' :: '/' :: path ∧ Leads doc (split '/' path) ss v := by
  have hroot : ref = "#" ↔ ref.toList = ['#'] := by rw [← String.toList_inj]; rfl
  unfold resolve segments?
  split
  · rename_i ss hss
    split at hss
    · rename_i href
      cases hss
      rw [follow, Except.ok.injEq, hroot, href]
      constructor
      · exact fun h => .inl ⟨rfl, h.symm⟩
      · rintro (⟨-, h⟩ | ⟨path, ss, hpath, -⟩)
        · exact h.symm
        · cases hpath
    · rename_i path href
      cases hss
      rw [follow_eq_ok_iff, hroot, href]
      constructor
      · rintro ⟨ss, h⟩
        exact .inr ⟨path, ss, rfl, h⟩
      · rintro (⟨h, -⟩ | ⟨path', ss, hpath, h⟩)
        · cases h
        · cases hpath
          exact ⟨ss, h⟩
    · cases hss
  · rename_i hss
    split at hss
    · cases hss
    · cases hss
    · rename_i hne hslash
      constructor
      · intro h
        cases h
      · rintro (⟨h, -⟩ | ⟨path, ss, hpath, -⟩)
        · exact absurd (hroot.mp h) hne
        · exact absurd hpath (hslash path)

/-! ## Written forms -/

/-- **Every place is reached by its written form.** -/
theorem resolve_written {doc : Value} {steps : List Step} (h : doc.at? steps = some v) :
    resolve doc (written steps) = .ok v := by
  rw [resolve_eq_ok_iff]
  cases steps with
  | nil =>
    cases h
    exact .inl ⟨rfl, rfl⟩
  | cons s ss =>
    refine .inr ⟨segment s ++ ss.flatMap fun s => '/' :: segment s, s :: ss, ?_, ?_⟩
    · rw [written, String.toList_ofList]
      rfl
    · rw [split_segments]
      refine leads_of_denotes ?_ h
      exact List.forall₂_map_left_iff.mpr (List.forall₂_same.mpr fun s _ => denotes_segment s)

/-- Keys that look like escapes, a key with a slash in it, and the empty key. -/
def sampleNest : Value :=
  .mapping [
    (.text "~1", .text "not here"),
    (.text "~01", .list [.null, .mapping [(.text "a/b", .mapping [(.text "", .text "here")])]])]

theorem resolve_written_sampleNest :
    sampleNest.at? [.key "~01", .index 1, .key "a/b", .key ""] = some (.text "here") ∧
      written [.key "~01", .index 1, .key "a/b", .key ""] = "#/~001/1/a~1b/" ∧
      resolve sampleNest (written [.key "~01", .index 1, .key "a/b", .key ""]) =
        .ok (.text "here") :=
  ⟨rfl, by decide +kernel, resolve_written rfl⟩

end Pointer
end ServiceCatalog
