import ServiceCatalog.Proofs.CommandOutcome
import ServiceCatalog.Proofs.Imports
import ServiceCatalog.Proofs.LetterCase
import ServiceCatalog.Proofs.TypeNames

/-!
# Reading a plain table back

A plain table has a line for its headers and one for each row, and tabs between its cells.  Who
reads it cuts the text at its line feeds and the lines at its tabs (`readRows`).  Nothing in a cell
is escaped, so a table is read back exactly if no cell holds a tab or a line feed
(`readRows_writtenRows_iff`); one direction is that of split and join, and the other one is that
what is cut out holds no cuts.

Most cells cannot hold either.  Counts and codes are digits, the name of an operation has been made
an identifier, and the type of a result is put together from cleaned names (`Model.HasPlainType`, an
invariant of the models of schemas).  What is left is what comes from the document as it is: the
name and the description of a tag and the path of an operation, and the method, which comes from the
settings (`Service.isField_row_iff`, `Operation.isField_row_iff`).
-/

namespace ServiceCatalog

open Attempt

/-! ## Fields, lines and rows -/

/-- A text that a cell can hold: neither a tab nor a line feed is in it. -/
def IsField (text : String) : Prop := ∀ c ∈ text.toList, c ≠ '\t' ∧ c ≠ '\n'

instance : DecidablePred IsField := fun text =>
  decidable_of_iff ((text.toList.all fun c => c ≠ '\t' && c ≠ '\n') = true) (by simp [IsField])

/-- The fields of a line. -/
def fieldsOf (line : List Char) : List String := (Text.split '\t' line).map String.ofList

/-- The rows that are read from a text.  Nothing is behind the last line feed. -/
def readRows (text : String) : List (List String) :=
  (Text.split '\n' text.toList).dropLast.map fieldsOf

/-- The text that is written for rows. -/
def writtenRows (rows : List (List String)) : String :=
  String.join (rows.map fun row => Console.cells row ++ "\n")

namespace Text

variable {cut c : Char} {sep : List Char} {ws : List (List Char)}

theorem mem_intercalate (h : c ∈ sep.intercalate ws) : c ∈ sep ∨ ∃ w ∈ ws, c ∈ w := by
  induction ws with
  | nil => cases h
  | cons w ws ih =>
    cases ws with
    | nil => exact .inr ⟨w, List.mem_singleton_self w, by simpa using h⟩
    | cons v ws =>
      rw [List.intercalate_cons_cons, List.mem_append, List.mem_append] at h
      rcases h with (h | h) | h
      · exact .inr ⟨w, List.mem_cons_self, h⟩
      · exact .inl h
      · rcases ih h with h | ⟨u, hu, hc⟩
        · exact .inl h
        · exact .inr ⟨u, List.mem_cons_of_mem w hu, hc⟩

/-- Texts without cuts are the pieces of what they are with cuts between them. -/
theorem split_intercalate (hne : ws ≠ []) (h : ∀ w ∈ ws, cut ∉ w) :
    split cut ([cut].intercalate ws) = ws := by
  induction ws with
  | nil => exact absurd rfl hne
  | cons w ws ih =>
    have hw := split_eq_singleton (h w List.mem_cons_self)
    cases ws with
    | nil => simpa using hw
    | cons v ws =>
      rw [List.intercalate_cons_cons, List.append_assoc, List.singleton_append, split_append, hw,
        ih (List.cons_ne_nil v ws) fun u hu => h u (List.mem_cons_of_mem w hu)]
      rfl

/-- Texts without cuts are the pieces of what they are with a cut behind each, and one empty piece
is left. -/
theorem split_flatMap_cut (h : ∀ w ∈ ws, cut ∉ w) :
    split cut (ws.flatMap (· ++ [cut])) = ws ++ [[]] := by
  induction ws with
  | nil => rfl
  | cons w ws ih =>
    rw [List.flatMap_cons, List.append_assoc, List.singleton_append, split_append,
      split_eq_singleton (h w List.mem_cons_self),
      ih fun v hv => h v (List.mem_cons_of_mem w hv)]
    rfl

end Text

section rows

variable {text : String} {row : List String} {rows : List (List String)}

/-- What is read holds no cuts. -/
theorem isField_of_mem_readRows (hrow : row ∈ readRows text) {cell : String} (hcell : cell ∈ row) :
    IsField cell := by
  obtain ⟨line, hline, rfl⟩ := List.mem_map.mp hrow
  obtain ⟨cs, hcs, rfl⟩ := List.mem_map.mp hcell
  intro c hc
  rw [String.toList_ofList] at hc
  refine ⟨?_, ?_⟩
  · rintro rfl
    exact Text.notMem_of_mem_split hcs hc
  · rintro rfl
    exact Text.notMem_of_mem_split (List.dropLast_subset _ hline) (Text.mem_of_mem_split hcs hc)

theorem fieldsOf_cells (hne : row ≠ []) (h : ∀ cell ∈ row, IsField cell) :
    fieldsOf (Console.cells row).toList = row := by
  have htab : ∀ w ∈ row.map String.toList, '\t' ∉ w := by
    intro w hw hmem
    obtain ⟨cell, hcell, rfl⟩ := List.mem_map.mp hw
    exact (h cell hcell '\t' hmem).1 rfl
  rw [fieldsOf, Console.cells, String.toList_intercalate]
  have hsplit := Text.split_intercalate (by simpa using hne) htab
  have hmark : "\t".toList = ['\t'] := rfl
  rw [hmark, hsplit, List.map_map]
  exact (List.map_congr_left fun cell _ => String.ofList_toList).trans (List.map_id row)

theorem lineFeed_notMem_cells (h : ∀ cell ∈ row, IsField cell) :
    '\n' ∉ (Console.cells row).toList := by
  intro hmem
  rw [Console.cells, String.toList_intercalate] at hmem
  rcases Text.mem_intercalate hmem with hmem | ⟨w, hw, hmem⟩
  · revert hmem
    decide
  · obtain ⟨cell, hcell, rfl⟩ := List.mem_map.mp hw
    exact (h cell hcell '\n' hmem).2 rfl

/-- **Rows are read back exactly if every cell is a field.** -/
theorem readRows_writtenRows_iff (hne : ∀ row ∈ rows, row ≠ []) :
    readRows (writtenRows rows) = rows ↔ ∀ row ∈ rows, ∀ cell ∈ row, IsField cell := by
  constructor
  · intro h row hrow cell hcell
    exact isField_of_mem_readRows (h.symm ▸ hrow) hcell
  · intro h
    have hwritten : (writtenRows rows).toList =
        (rows.map fun row => (Console.cells row).toList).flatMap (· ++ ['\n']) := by
      simp [writtenRows, String.toList_join, List.flatMap_map]
    have hlines : ∀ w ∈ rows.map fun row => (Console.cells row).toList, '\n' ∉ w := by
      intro w hw
      obtain ⟨row, hrow, rfl⟩ := List.mem_map.mp hw
      exact lineFeed_notMem_cells (h row hrow)
    rw [readRows, hwritten, Text.split_flatMap_cut hlines, List.dropLast_concat, List.map_map]
    refine (List.map_congr_left fun row hrow => ?_).trans (List.map_id rows)
    exact fieldsOf_cells (hne row hrow) (h row hrow)

end rows

/-! ## Cells -/

section cells

variable {text : String}

/-- A text of characters from a class is a field, if neither a tab nor a line feed is in the
class. -/
theorem isField_of_class {p : Char → Bool} (htab : p '\t' = false) (hfeed : p '\n' = false)
    (h : ∀ c ∈ text.toList, p c = true) : IsField text := by
  intro c hc
  refine ⟨?_, ?_⟩ <;> rintro rfl
  · exact absurd (h _ hc) (by simp [htab])
  · exact absurd (h _ hc) (by simp [hfeed])

theorem isField_orHyphen_iff : IsField (orHyphen text) ↔ IsField text := by
  unfold orHyphen
  by_cases h : text = ""
  · rw [if_pos h, h]
    decide
  · rw [if_neg h]

theorem isField_listed {texts : List String} (h : ∀ t ∈ texts, IsField t) :
    IsField (listed texts) := by
  intro c hc
  rw [listed, String.toList_intercalate] at hc
  have hmark : IsField ", " := by decide
  rcases Text.mem_intercalate hc with hc | ⟨w, hw, hc⟩
  · exact hmark c hc
  · obtain ⟨t, ht, rfl⟩ := List.mem_map.mp hw
    exact h t ht c hc

theorem isDigit_of_mem_toDigits {n : Nat} {c : Char} (h : c ∈ Nat.toDigits 10 n) :
    c.isDigit = true :=
  Nat.isDigit_of_mem_toDigits (by decide) (by decide) h

theorem isField_repr (n : Nat) : IsField n.repr := by
  refine isField_of_class (p := Char.isDigit) rfl rfl fun c hc => ?_
  rw [Nat.toList_repr] at hc
  exact isDigit_of_mem_toDigits hc

theorem isField_writtenCode (code : Int) : IsField (writtenCode code) := by
  refine isField_of_class (p := fun c => c.isDigit || c = '-') rfl rfl fun c hc => ?_
  rw [writtenCode, String.toList_ofList, writtenInt, List.mem_append] at hc
  rcases hc with hc | hc
  · split at hc
    · rw [List.mem_singleton.mp hc]
      rfl
    · cases hc
  · rw [isDigit_of_mem_toDigits hc, Bool.true_or]

theorem isField_operationName (path method : String) (declaredId : Option String)
    (reserved : List String) (placeholder : String) :
    IsField (Naming.operationName path method declaredId reserved placeholder) := by
  have hidentifier : ∀ cs, IsField (String.ofList (Naming.identify cs)) := by
    intro cs
    refine isField_of_class (p := Char.isAlphanum) rfl rfl fun c hc => ?_
    rw [String.toList_ofList] at hc
    exact Naming.isAlphanum_of_mem_identify hc
  unfold Naming.operationName
  cases declaredId with
  | none => exact hidentifier _
  | some id =>
    dsimp only
    split
    · exact hidentifier _
    · unfold Naming.declaredName
      dsimp only
      split <;> exact hidentifier _

end cells

/-! ## The types of models -/

/-- A character of a type: one of a name, or a bracket around the argument of a generic type. -/
def isTypeChar (c : Char) : Bool := Naming.isTypeNameChar c || c = '<' || c = '>'

/-- A text holds nothing but characters of a type. -/
def isTypeText (text : String) : Bool := text.toList.all isTypeChar

/-- The type of a model is a text of such characters. -/
def Model.HasPlainType (m : Model) : Prop := isTypeText m.type = true

theorem isField_of_isTypeText {text : String} (h : isTypeText text = true) : IsField text :=
  isField_of_class rfl rfl (List.all_eq_true.mp h)

namespace Schema

open Naming

theorem isTypeText_cleanTypeName (cs : List Char) :
    isTypeText (String.ofList (cleanTypeName cs)) = true := by
  rw [isTypeText, String.toList_ofList, List.all_eq_true]
  intro c hc
  have hname : isTypeNameChar c = true := Text.keep_of_mem_collapse rfl hc
  rw [isTypeChar, hname]
  rfl

theorem hasPlainType_ofReference (ref : String) : (ofReference ref).HasPlainType := by
  unfold Model.HasPlainType ofReference
  dsimp only
  split
  · rename_i outer inner _
    show isTypeText (String.ofList (cleanTypeName outer) ++ "<" ++
      String.ofList (cleanTypeName inner) ++ ">") = true
    have hopening : isTypeText "<" = true := by decide
    have hclosing : isTypeText ">" = true := by decide
    have houter := isTypeText_cleanTypeName outer
    have hinner := isTypeText_cleanTypeName inner
    simp only [isTypeText] at hopening hclosing houter hinner
    simp only [isTypeText, String.toList_append, List.all_append, houter, hopening, hinner,
      hclosing, Bool.and_self]
  · exact isTypeText_cleanTypeName _

theorem isTypeText_primitiveType (kind : Option String) (format : Value) :
    isTypeText (primitiveType kind format) = true := by
  unfold primitiveType
  split
  · split <;> decide
  all_goals decide

/-- The type of the model of a schema is made of names. -/
theorem hasPlainType_resolve (name : String) (isDefinition : Bool) (schema : Value) :
    (resolve name isDefinition schema).HasPlainType := by
  have hany : isTypeText "any" = true := by decide
  apply resolve_induction (P := Model.HasPlainType)
  case nothing => exact fun _ _ => hany
  case reference => exact fun _ _ ref => hasPlainType_ofReference ref
  case enumeration =>
    intro name isDefinition schema values
    unfold Model.HasPlainType asEnum
    dsimp only
    split <;> decide
  case containerOfReference => exact fun _ _ _ _ ref _ => hasPlainType_ofReference ref
  case container => exact fun _ _ _ _ element _ helement => helement
  case composition => exact fun _ _ _ _ _ _ _ => hany
  case required => exact fun _ _ h => h
  case interface => exact fun _ _ _ _ _ => hany
  case primitive => exact fun _ _ _ kind format => isTypeText_primitiveType kind format

end Schema

/-! ## Results -/

namespace Response

variable {doc : Value} {mediaTypes : List String} {rs : List Response} {r : Response}

theorem hasPlainType_ofDeclaration {declaration : Value} {code : Int}
    (h : ofDeclaration doc declaration code mediaTypes = .ok r) : r.HasPlainType := by
  rcases ofDeclaration_eq_ok h with ⟨content, schema, -, -, rfl⟩ | ⟨-, rfl⟩
  · unfold withSchema
    split
    · exact Schema.hasPlainType_ofReference _
    · exact Schema.hasPlainType_resolve "" false schema
  · unfold withHeaders
    split
    · show isTypeText "string" = true
      decide
    · show isTypeText "any" = true
      decide

theorem hasPlainType_of_mem_results {responses : Value}
    (h : declared doc responses mediaTypes = .ok rs) (hr : r ∈ results rs) : r.HasPlainType := by
  rcases eq_void_or_ofDeclaration_of_mem_results h hr with rfl | ⟨declaration, code, hof⟩
  · show isTypeText "void" = true
    decide
  · exact hasPlainType_ofDeclaration hof

end Response

/-! ## Rows -/

namespace Operation

/-- What is made for an operation can stand in a cell: its name and the types of its results. -/
structure IsTabular (o : Operation) : Prop where
  name : IsField o.name
  results : ∀ r ∈ o.results, IsField r.type

theorem isTabular_of_ofDeclaration {doc operation : Value} {path method : String}
    {inherited : Inputs} {settings : Settings} {o : Operation}
    (h : ofDeclaration doc path method operation inherited settings = .ok o) : o.IsTabular := by
  simp only [ofDeclaration, bind_eq_ok, pure_eq_ok] at h
  obtain ⟨own, -, body, -, responses, hresponses, rfl⟩ := h
  exact ⟨isField_operationName _ _ _ _ _, fun r hr =>
    isField_of_isTypeText (Response.hasPlainType_of_mem_results hresponses hr)⟩

/-- **Three cells of an operation may be no fields**: its service, its method and its path. -/
theorem isField_row_iff {o : Operation} (h : o.IsTabular) (service : String) :
    (∀ cell ∈ o.row service, IsField cell) ↔
      IsField service ∧ IsField o.method ∧ IsField o.path := by
  have hresults : IsField (listed (o.results.map fun r => r.type)) := by
    refine isField_listed fun t ht => ?_
    obtain ⟨r, hr, rfl⟩ := List.mem_map.mp ht
    exact h.results r hr
  have herrors : IsField (orHyphen (listed (o.errors.map fun e => writtenCode e.code))) := by
    rw [isField_orHyphen_iff]
    refine isField_listed fun t ht => ?_
    obtain ⟨e, -, rfl⟩ := List.mem_map.mp ht
    exact isField_writtenCode e.code
  simp [row, h.name, hresults, herrors]

end Operation

namespace Service

variable {doc : Value} {settings : Settings} {ss : List Service} {s : Service}

theorem isTabular_of_mem_operations (h : ofDocument doc settings = .ok ss) (hs : s ∈ ss) :
    ∀ o ∈ s.operations, o.IsTabular := by
  obtain ⟨tag, htag⟩ := exists_of_mem_ofDocument h hs
  refine (ofTag_induction (P := fun s => ∀ o ∈ s.operations, o.IsTabular) ?_ ?_ htag).2
  · exact fun o ho => absurd ho List.not_mem_nil
  · intro s key item method inherited o _ _ ho hall o' hmem
    obtain ⟨path, -, hof⟩ := bind_eq_ok.mp ho
    rw [mapError_eq_ok] at hof
    rcases List.mem_append.mp hmem with hmem | hmem
    · exact hall o' hmem
    · rw [List.mem_singleton.mp hmem]
      exact Operation.isTabular_of_ofDeclaration hof

/-- **Two cells of a service may be no fields**: its name and its description. -/
theorem isField_row_iff :
    (∀ cell ∈ s.row, IsField cell) ↔ IsField s.name ∧ IsField (s.description.getD "") := by
  simp [row, orHyphen?, isField_orHyphen_iff, isField_repr]

/-- The cells of the operations of services that may be no fields. -/
theorem isField_rows_iff (h : ∀ s ∈ ss, ∀ o ∈ s.operations, o.IsTabular) :
    (∀ row ∈ ss.flatMap rows, ∀ cell ∈ row, IsField cell) ↔
      ∀ s ∈ ss, ∀ o ∈ s.operations, IsField s.name ∧ IsField o.method ∧ IsField o.path := by
  rw [List.forall_mem_flatMap]
  refine forall₂_congr fun s hs => ?_
  rw [rows, List.forall_mem_map]
  exact forall₂_congr fun o ho => Operation.isField_row_iff (h s hs o ho) s.name

theorem mem_of_mem_selected {selected : List Service} {name : Option String}
    (h : Service.selected ss name = .ok selected) (hs : s ∈ selected) : s ∈ ss := by
  unfold Service.selected at h
  split at h
  · cases h
    exact hs
  · split at h
    · cases h
    · rw [← Except.ok.inj h] at hs
      exact (List.mem_filter.mp hs).1

end Service

/-! ## Runs -/

namespace Options

variable {s : Surroundings} {o : Options} {source : String} {services : List Service}

theorem exists_ofDocument_of_found (h : o.found s source = .ok services) :
    ∃ doc settings, Service.ofDocument doc settings = .ok services := by
  simp only [found, extract, bind_eq_ok, mapError_eq_ok, pure_eq_ok] at h
  obtain ⟨settings, -, -, -, doc, -, -, ⟨-, -, found, hfound, rfl⟩, rfl⟩ := h
  exact ⟨doc, settings, hfound⟩

end Options

namespace Console

variable {c : Console} {headers : List String} {rows : List (List String)} {r : Outcome}

/-- What is printed for a plain table are its rows, with the headers as the first one. -/
theorem output_of_table (hplain : c.format = .plain)
    (h : r.effects.filter Effect.isData = c.table headers rows) :
    r.output = writtenRows (headers :: rows) := by
  rw [Outcome.output_eq_join, h, table, hplain]
  simp [writtenRows, line, Function.comp_def]

/-- A plain table is printed as a whole if each of its lines can be encoded. -/
theorem allCarriedOut_table {files : FileTree} (hplain : c.format = .plain)
    (h : ∀ row ∈ headers :: rows, Text.unencodable? (cells row ++ "\n") = none) :
    (Effect.allCarriedOut files (c.table headers rows)).2 = none := by
  have hlines : c.table headers rows =
      ((headers :: rows).map fun row => cells row ++ "\n").map .output ++ [] := by
    rw [table, hplain, List.map_map, List.append_nil]
    rfl
  rw [hlines, Effect.allCarriedOut_texts files (List.forall_mem_map.mpr h)]
  rfl

/-- Under headers that are fields the rows are read back exactly if their cells are fields. -/
theorem readRows_of_table_iff (hplain : c.format = .plain)
    (h : r.effects.filter Effect.isData = c.table headers rows) (hne : headers ≠ [])
    (hheaders : ∀ header ∈ headers, IsField header)
    (hlength : ∀ row ∈ rows, row.length = headers.length) :
    readRows r.output = headers :: rows ↔ ∀ row ∈ rows, ∀ cell ∈ row, IsField cell := by
  have hrows : ∀ row ∈ headers :: rows, row ≠ [] := by
    intro row hrow
    rcases List.mem_cons.mp hrow with rfl | hrow
    · exact hne
    · rw [← List.length_pos_iff, hlength row hrow]
      exact List.length_pos_iff.mpr hne
  rw [output_of_table hplain h, readRows_writtenRows_iff hrows, List.forall_mem_cons]
  exact and_iff_right hheaders

end Console

section runs

variable {s : Surroundings} {args : List String} {o : Options} {cmd : Command}

/-- A run that succeeds hands over what its stages yield. -/
theorem exists_result_of_exitCode (hargs : Invocation.ofArguments args = .ok (.run o cmd))
    (hcode : (run s args).exitCode = 0) :
    cmd.result s o = .ok ((run s args).effects.filter Effect.isData) := by
  rw [run_eq_of_arguments hargs] at hcode ⊢
  obtain ⟨data, hresult, -, rfl⟩ := Command.exists_result_of_exitCode_eq_zero hcode
  exact hresult

theorem format_console_of_plain (h : o.json = false) :
    (o.console s.environment).format = .plain := by
  rw [Options.console, h]
  rfl

/-- The table of the services that are found is printed as it is, if it can be encoded. -/
theorem run_services_of_found {source : String} {services : List Service}
    (hargs : Invocation.ofArguments args = .ok (.run o (.services source)))
    (hplain : o.json = false) (h : o.found s source = .ok services)
    (hencodable : ∀ row ∈ serviceHeaders :: services.map Service.row,
      Text.unencodable? (Console.cells row ++ "\n") = none) :
    (run s args).exitCode = 0 ∧
      (run s args).output = writtenRows (serviceHeaders :: services.map Service.row) := by
  have hformat := format_console_of_plain (s := s) hplain
  have hresult : Command.result s o (.services source) =
      .ok ((o.console s.environment).table serviceHeaders (services.map Service.row)) := by
    rw [Command.result, h]
    rfl
  obtain ⟨hcode, hdata⟩ := Command.run_of_result_eq_ok hresult
    (Console.allCarriedOut_table hformat hencodable)
  rw [run_eq_of_arguments hargs]
  exact ⟨hcode, Console.output_of_table hformat hdata⟩

/-- **When a plain table can be read back.**  Let a command that prints a plain table succeed.  Each
row has as many cells as there are headers.  Cut at line feeds and tabs, what is printed gives the
headers and then the rows, for services exactly if no name and no description of a tag holds a tab
or a line feed, and for operations exactly if no service, no method and no path of the operations
that are listed does. -/
theorem readRows_of_arguments (hargs : Invocation.ofArguments args = .ok (.run o cmd))
    (hplain : o.json = false) (hcode : (run s args).exitCode = 0) :
    (∀ source, cmd = .services source →
      ∃ services, o.found s source = .ok services ∧
        (∀ row ∈ services.map Service.row, row.length = serviceHeaders.length) ∧
        (readRows (run s args).output = serviceHeaders :: services.map Service.row ↔
          ∀ service ∈ services,
            IsField service.name ∧ IsField (service.description.getD ""))) ∧
    (∀ source name, cmd = .operations source name →
      ∃ services selected, o.found s source = .ok services ∧
        Service.selected services name = .ok selected ∧
        (∀ row ∈ selected.flatMap Service.rows, row.length = operationHeaders.length) ∧
        (readRows (run s args).output = operationHeaders :: selected.flatMap Service.rows ↔
          ∀ service ∈ selected, ∀ operation ∈ service.operations,
            IsField service.name ∧ IsField operation.method ∧ IsField operation.path)) := by
  have hresult := exists_result_of_exitCode hargs hcode
  have hformat := format_console_of_plain (s := s) hplain
  refine ⟨?_, ?_⟩
  · rintro source rfl
    simp only [Command.result, bind_eq_ok, pure_eq_ok] at hresult
    obtain ⟨services, hservices, htable⟩ := hresult
    have hlength : ∀ row ∈ services.map Service.row, row.length = serviceHeaders.length := by
      intro row hrow
      obtain ⟨service, -, rfl⟩ := List.mem_map.mp hrow
      rfl
    refine ⟨services, hservices, hlength, ?_⟩
    rw [Console.readRows_of_table_iff hformat htable.symm (List.cons_ne_nil _ _) (by decide)
      hlength, List.forall_mem_map]
    exact forall₂_congr fun service _ => Service.isField_row_iff
  · rintro source name rfl
    simp only [Command.result, bind_eq_ok, pure_eq_ok] at hresult
    obtain ⟨services, hservices, selected, hselected, htable⟩ := hresult
    have hlength : ∀ row ∈ selected.flatMap Service.rows,
        row.length = operationHeaders.length := by
      intro row hrow
      obtain ⟨service, -, hrow⟩ := List.mem_flatMap.mp hrow
      obtain ⟨operation, -, rfl⟩ := List.mem_map.mp hrow
      rfl
    obtain ⟨doc, settings, hfound⟩ := Options.exists_ofDocument_of_found hservices
    refine ⟨services, selected, hservices, hselected, hlength, ?_⟩
    rw [Console.readRows_of_table_iff hformat htable.symm (List.cons_ne_nil _ _) (by decide)
      hlength]
    exact Service.isField_rows_iff fun service hservice =>
      Service.isTabular_of_mem_operations hfound (Service.mem_of_mem_selected hselected hservice)

end runs

/-- A document on the standard input with one operation and some tags, each with a name and a
description as they are written in JSON. -/
def sampleTags (tags : List (String × String)) : Surroundings where
  files := .none
  input := "\x7b\"openapi\":\"3.0.0\",\"paths\":\x7b\"/pets\":\x7b\"get\":\x7b\"tags\":" ++
    "[\"pets\"]\x7d\x7d\x7d,\"tags\":[" ++ String.intercalate "," (tags.map fun tag =>
      "\x7b\"name\":\"" ++ tag.1 ++ "\",\"description\":\"" ++ tag.2 ++ "\"\x7d") ++ "]\x7d"

/-- What is found in a sample, looked at through a function. -/
theorem sampleTags.exists_found {α : Type} [DecidableEq α] (tags : List (String × String))
    (f : List Service → α) {a : α}
    (h : ((Options.found (sampleTags tags) {} "-").toOption.map f) = some a) :
    ∃ services, Options.found (sampleTags tags) {} "-" = .ok services ∧ f services = a := by
  cases hfound : Options.found (sampleTags tags) {} "-" with
  | error cause => rw [hfound] at h; cases h
  | ok services =>
    rw [hfound] at h
    exact ⟨services, rfl, Option.some.inj h⟩

/-- Both tables of a document are read back. -/
theorem readRows_of_arguments_of_pets :
    (Invocation.ofArguments ["inspect", "services", "-"] = .ok (.run {} (.services "-")) ∧
      (run (sampleTags [("pets", "All pets")]) ["inspect", "services", "-"]).exitCode = 0 ∧
      ∃ services, Options.found (sampleTags [("pets", "All pets")]) {} "-" = .ok services ∧
        readRows (run (sampleTags [("pets", "All pets")]) ["inspect", "services", "-"]).output =
          serviceHeaders :: services.map Service.row) ∧
    (Invocation.ofArguments ["inspect", "operations", "-"] = .ok (.run {} (.operations "-" none)) ∧
      (run (sampleTags [("pets", "All pets")]) ["inspect", "operations", "-"]).exitCode = 0 ∧
      ∃ services, Options.found (sampleTags [("pets", "All pets")]) {} "-" = .ok services ∧
        readRows (run (sampleTags [("pets", "All pets")]) ["inspect", "operations", "-"]).output =
          operationHeaders :: services.flatMap Service.rows) := by
  have hservices : Invocation.ofArguments ["inspect", "services", "-"] =
      .ok (.run {} (.services "-")) := by decide +kernel
  have hoperations : Invocation.ofArguments ["inspect", "operations", "-"] =
      .ok (.run {} (.operations "-" none)) := by decide +kernel
  obtain ⟨pets, hpets, hpetsAre⟩ := sampleTags.exists_found [("pets", "All pets")]
    (fun services => decide (
      ((∀ s ∈ services, IsField s.name ∧ IsField (s.description.getD "")) ∧
        ∀ s ∈ services, ∀ o ∈ s.operations,
          IsField s.name ∧ IsField o.method ∧ IsField o.path) ∧
      (∀ row ∈ serviceHeaders :: services.map Service.row,
        Text.unencodable? (Console.cells row ++ "\n") = none) ∧
      ∀ row ∈ operationHeaders :: services.flatMap Service.rows,
        Text.unencodable? (Console.cells row ++ "\n") = none))
    (a := true) (by decide +kernel)
  obtain ⟨⟨hserviceFields, hoperationFields⟩, hserviceLines, hoperationLines⟩ :=
    of_decide_eq_true hpetsAre
  have hlisted := (run_services_of_found hservices rfl hpets hserviceLines).1
  have hshown : (run (sampleTags [("pets", "All pets")])
      ["inspect", "operations", "-"]).exitCode = 0 := by
    rw [run_eq_of_arguments hoperations]
    exact (Command.run_of_result_eq_ok (by rw [Command.result, hpets]; rfl)
      (Console.allCarriedOut_table rfl hoperationLines)).1
  obtain ⟨hall, -⟩ := readRows_of_arguments hservices rfl hlisted
  obtain ⟨services, hfound, -, hread⟩ := hall "-" rfl
  cases hpets.symm.trans hfound
  obtain ⟨-, hall⟩ := readRows_of_arguments hoperations rfl hshown
  obtain ⟨services, selected, hfound, hselected, -, hreadAll⟩ := hall "-" none rfl
  cases hpets.symm.trans hfound
  cases hselected
  exact ⟨⟨hservices, hlisted, pets, hpets, hread.mpr hserviceFields⟩, hoperations, hshown, pets,
    hpets, hreadAll.mpr hoperationFields⟩

/-- **A table that cannot be read back.**  A description with a line feed in it forges a row: the
document with one tag is printed like one with two. -/
theorem readRows_of_forged_row :
    Invocation.ofArguments ["inspect", "services", "-"] = .ok (.run {} (.services "-")) ∧
      (run (sampleTags [("pets", "All pets\\nshops\\t0\\tAll shops")])
        ["inspect", "services", "-"]).exitCode = 0 ∧
      (run (sampleTags [("pets", "All pets\\nshops\\t0\\tAll shops")])
          ["inspect", "services", "-"]).output =
        (run (sampleTags [("pets", "All pets"), ("shops", "All shops")])
          ["inspect", "services", "-"]).output ∧
      ∃ services, Options.found
          (sampleTags [("pets", "All pets\\nshops\\t0\\tAll shops")]) {} "-" = .ok services ∧
        services.map Service.row = [["pets", "1", "All pets\nshops\t0\tAll shops"]] ∧
        readRows (run (sampleTags [("pets", "All pets\\nshops\\t0\\tAll shops")])
            ["inspect", "services", "-"]).output =
          [serviceHeaders, ["pets", "1", "All pets"], ["shops", "0", "All shops"]] ∧
        readRows (run (sampleTags [("pets", "All pets\\nshops\\t0\\tAll shops")])
            ["inspect", "services", "-"]).output ≠ serviceHeaders :: services.map Service.row := by
  have hargs : Invocation.ofArguments ["inspect", "services", "-"] =
      .ok (.run {} (.services "-")) := by decide +kernel
  obtain ⟨forged, hforged, hforgedRows⟩ := sampleTags.exists_found
    [("pets", "All pets\\nshops\\t0\\tAll shops")] (List.map Service.row)
    (a := [["pets", "1", "All pets\nshops\t0\tAll shops"]]) (by decide +kernel)
  obtain ⟨honest, hhonest, hhonestRows⟩ := sampleTags.exists_found
    [("pets", "All pets"), ("shops", "All shops")] (List.map Service.row)
    (a := [["pets", "1", "All pets"], ["shops", "0", "All shops"]]) (by decide +kernel)
  obtain ⟨hcode, hforgedOutput⟩ := run_services_of_found hargs rfl hforged
    (by rw [hforgedRows]; decide +kernel)
  obtain ⟨-, hhonestOutput⟩ := run_services_of_found hargs rfl hhonest
    (by rw [hhonestRows]; decide +kernel)
  rw [hforgedOutput, hhonestOutput, hforgedRows, hhonestRows]
  refine ⟨hargs, hcode, by decide +kernel, forged, hforged, hforgedRows, by decide +kernel, ?_⟩
  rw [hforgedRows]
  decide +kernel

end ServiceCatalog
