import ServiceCatalog.Document.Value

/-!
# JSON values

What the library reads from JSON text and what it prints has no dates, no bytes and only textual
keys, so it is a type of its own.  A `Json` is a document (`Json.toValue`), but not every document
is one; how a document becomes JSON is the subject of `ServiceCatalog.Json.Projection`.

Integers and floating-point numbers stay apart, because they are printed differently: `1` is not
`1.0`.
-/

namespace ServiceCatalog

/-- A JSON value; the members of an object keep their order. -/
inductive Json where
  | null
  | bool (b : Bool)
  | int (n : Int)
  | float (x : Double)
  | text (s : String)
  | array (items : List Json)
  | object (members : List (String × Json))

namespace Json

instance : Inhabited Json := ⟨null⟩

/-- Sets the value of a key: in place if the key is there, at the end otherwise. -/
def put (key : String) (value : Json) : List (String × Json) → List (String × Json)
  | [] => [(key, value)]
  | (k, v) :: ms => if k = key then (k, value) :: ms else (k, v) :: put key value ms

/-- The members that remain when every key has been set in turn: a repeated key keeps its first
place and its last value. -/
def distinct (ms : List (String × Json)) : List (String × Json) :=
  ms.foldl (fun acc m => put m.1 m.2 acc) []

theorem put_of_notMem {key : String} {value : Json} {ms : List (String × Json)}
    (h : key ∉ ms.map Prod.fst) : put key value ms = ms ++ [(key, value)] := by
  induction ms with
  | nil => rfl
  | cons m ms ih =>
    simp only [List.map_cons, List.mem_cons, not_or] at h
    simp [put, Ne.symm h.1, ih h.2]

/-- Members with different keys are left as they are. -/
theorem distinct_of_nodup {ms : List (String × Json)} (h : (ms.map Prod.fst).Nodup) :
    distinct ms = ms := by
  have key : ∀ (ns acc : List (String × Json)), ((acc ++ ns).map Prod.fst).Nodup →
      ns.foldl (fun acc m => put m.1 m.2 acc) acc = acc ++ ns := by
    intro ns
    induction ns with
    | nil => intro acc _; simp
    | cons n ns ih =>
      intro acc hn
      have hfresh : n.1 ∉ acc.map Prod.fst := by
        simp only [List.map_append, List.map_cons, List.nodup_append] at hn
        intro hm
        exact hn.2.2 _ hm _ (by simp) rfl
      simp only [List.foldl_cons, put_of_notMem hfresh]
      rw [ih (acc ++ [(n.1, n.2)]) (by simpa using hn)]
      simp
  simpa [distinct] using key ms [] (by simpa using h)

mutual

/-- A JSON value as a document. -/
def toValue : Json → Value
  | .null => .scalar .null
  | .bool b => .scalar (.bool b)
  | .int n => .scalar (.int n)
  | .float x => .scalar (.float x)
  | .text s => .scalar (.text s)
  | .array items => .list (itemsToValues items)
  | .object ms => .mapping (membersToEntries ms)

/-- The items of an array as those of a list. -/
def itemsToValues : List Json → List Value
  | [] => []
  | j :: js => toValue j :: itemsToValues js

/-- The members of an object as the entries of a mapping. -/
def membersToEntries : List (String × Json) → List (Scalar × Value)
  | [] => []
  | (k, j) :: ms => (.text k, toValue j) :: membersToEntries ms

end

/-- An optional text, which is null when it is missing. -/
def ofText? : Option String → Json
  | some s => .text s
  | none => .null

end Json
end ServiceCatalog
