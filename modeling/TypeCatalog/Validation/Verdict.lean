import TypeCatalog.Validation.Schema

/-!
# What schemas say of values

`Schema.errors` lists what a value does not satisfy, in the order of the keywords, and
`Schema.looksAt` lists the parts of a value that a schema has something to say of. Both follow
references by two functions, one for the value itself and one for its parts; `Validator.follow`
supplies them.
-/

set_option autoImplicit false

namespace TypeCatalog

/-- How references are followed: the errors of a value at a target, and the names and indices of the
parts that are looked at there. -/
structure Follow where
  errors : Link → Json → List ValueError
  looksAt : Link → Json → List String

/-- Follows no reference. -/
def Follow.nothing : Follow := ⟨fun _ _ => [], fun _ _ => []⟩

namespace Schema

/-! ## Errors -/

/-- The error of a value that nothing would have satisfied. -/
def nothingError (v : Json) : ValueError := .here ("False schema does not allow " ++ v.compact)

/-- What stands behind a list of things that were not expected. -/
def unexpectedEnd (n : Nat) : String := if n = 1 then " was unexpected)" else " were unexpected)"

/-- The error for things of a kind that were not expected. -/
def unexpectedError (kind : String) (things : List String) : ValueError :=
  .here (kind ++ " are not allowed (" ++ ", ".intercalate (things.map fun n => "'" ++ n ++ "'")
    ++ unexpectedEnd things.length)

/-- The error for items behind the last one that is allowed. -/
def extraItemsError (items : List Json) : ValueError :=
  .here ("Additional items are not allowed (" ++ ", ".intercalate (items.map (·.compact))
    ++ unexpectedEnd items.length)

/-- The error of a value that no schema of a list allows. -/
def noneOfError (v : Json) (keyword : String) : ValueError :=
  .here (v.compact ++ " is not valid under any of the schemas listed in the '" ++ keyword
    ++ "' keyword")

/-- The error of a value that more than one schema of a list allows. -/
def severalError (v : Json) : ValueError :=
  .here (v.compact
    ++ " is valid under more than one of the schemas listed in the 'oneOf' keyword")

def noItemError (v : Json) : ValueError :=
  .here ("None of " ++ v.compact ++ " are valid under the given schema")

def notError (written v : Json) : ValueError :=
  .here (written.compact ++ " is not allowed for " ++ v.compact)

/-- The errors of the items from an index on. -/
def itemErrors (check : Json → List ValueError) (index : Nat) (xs : List Json) : List ValueError :=
  (xs.zipIdx index).flatMap fun (x, i) => ValueError.allInside (toString i) (check x)

/-! ## Parts -/

/-- The parts of a value with their names or indices. -/
def parts : Json → List (String × Json)
  | .object ms => ms
  | .array xs => xs.zipIdx.map fun (x, i) => (toString i, x)
  | _ => []

/-- The names of the parts for which a test holds. -/
def partsWhere (test : String × Json → Bool) (v : Json) : List String :=
  ((parts v).filter test).map (·.1)

/-- The names of the items. -/
def itemNames : Json → List String
  | .array xs => partsWhere (fun _ => true) (.array xs)
  | _ => []

/-- The names of the members for which a test holds. -/
def membersWhere (test : String × Json → Bool) : Json → List String
  | .object ms => partsWhere test (.object ms)
  | _ => []

/-! ## Keywords -/

mutual
/-- What a value does not satisfy. -/
def errors (here below : Follow) : Schema → Json → List ValueError
  | boolean true, _ => []
  | boolean false, v => [nothingError v]
  | keywords ks, v => keywordListErrors here below ks v

/-- The errors of each keyword. -/
def keywordListErrors (here below : Follow) : List Keyword → Json → List ValueError
  | [], _ => []
  | k :: ks, v => keywordErrors here below k v ++ keywordListErrors here below ks v

/-- The errors of a keyword. -/
def keywordErrors (here below : Follow) : Keyword → Json → List ValueError
  | .constraint c, v => c.errors v
  | .reference l, v => here.errors l v
  | .allOf ss, v => (eachErrors here below ss v).flatten
  | .anyOf ss, v =>
    if (eachErrors here below ss v).any List.isEmpty then [] else [noneOfError v "anyOf"]
  | .oneOf ss, v =>
    match (eachErrors here below ss v).countP List.isEmpty with
    | 0 => [noneOfError v "oneOf"]
    | 1 => []
    | _ => [severalError v]
  | .not s written, v => if (errors here below s v).isEmpty then [notError written v] else []
  | .conditional c t e, v =>
    if (errors here below c v).isEmpty then errors here below t v else errors here below e v
  | .properties ps, .object ms => declaredErrors below ps ms
  | .patternProperties qs, .object ms => patternErrors below qs ms
  | .closed ps qs rest, .object ms =>
    let memberErrors (m : String × Json) : Option (List ValueError) :=
      match declaredErrors? below ps m with
      | some es => some (es ++ (matchingErrors below qs m).flatten)
      | none =>
        match matchingErrors below qs m with
        | [] => if rest.isNothing then none else some (errors below below rest m.2)
        | ess => some ess.flatten
    let found := ms.map fun m => (m, memberErrors m)
    let unexpected := found.filterMap fun (m, es) => if es.isNone then some m.1 else none
    found.flatMap (fun (m, es) => ValueError.allInside m.1 (es.getD []))
      ++ if unexpected.isEmpty then [] else [unexpectedError "Additional properties" unexpected]
  | .noProperties, .object ms => (ms.head?.map fun m => nothingError m.2).toList
  | .propertyNames s, .object ms =>
    if s.isNothing then if ms.isEmpty then [] else [nothingError (.object ms)]
    else ms.flatMap fun m => errors here below s (.string m.1)
  | .dependencies ps, .object ms => dependencyErrors here below ps ms
  | .items s, .array xs => itemErrors (fun x => errors below below s x) 0 xs
  | .tuple ss, .array xs => tupleErrors below ss 0 xs
  | .additionalItems n s, .array xs =>
    if s.isNothing then if xs.length ≤ n then [] else [extraItemsError (xs.drop n)]
    else itemErrors (fun x => errors below below s x) n (xs.drop n)
  | .itemsFrom n s, .array xs => itemErrors (fun x => errors below below s x) n (xs.drop n)
  | .contains least most _ s, .array xs =>
    let n := xs.countP fun x => (errors below below s x).isEmpty
    if least ≤ n && most.all (n ≤ ·) then [] else [noItemError (.array xs)]
  | .unevaluatedProperties siblings s, .object ms =>
    let seen := keywordListLooksAt here below siblings (.object ms)
    let unexpected := membersWhere
      (fun m => !seen.contains m.1 && !(errors below below s m.2).isEmpty) (.object ms)
    if unexpected.isEmpty then [] else [unexpectedError "Unevaluated properties" unexpected]
  | .unevaluatedItems siblings s, .array xs =>
    let seen := keywordListLooksAt here below siblings (.array xs)
    let unexpected := (parts (.array xs)).filter fun m =>
      !seen.contains m.1 && !(errors below below s m.2).isEmpty
    if unexpected.isEmpty then []
    else [unexpectedError "Unevaluated items" (unexpected.map fun m => m.2.compact)]
  | _, _ => []

/-- The errors of one value under each of some schemas. -/
def eachErrors (here below : Follow) : List Schema → Json → List (List ValueError)
  | [], _ => []
  | s :: ss, v => errors here below s v :: eachErrors here below ss v

/-- The errors of the declared properties that are there. -/
def declaredErrors (below : Follow) :
    List (String × Schema) → List (String × Json) → List ValueError
  | [], _ => []
  | (name, s) :: ps, ms =>
    (match ms.lookup name with
      | some x => ValueError.allInside name (errors below below s x)
      | none => [])
    ++ declaredErrors below ps ms

/-- The errors of a member, if it is declared, at its value. -/
def declaredErrors? (below : Follow) :
    List (String × Schema) → String × Json → Option (List ValueError)
  | [], _ => none
  | (name, s) :: ps, m =>
    if name = m.1 then some (errors below below s m.2) else declaredErrors? below ps m

/-- The errors of the members that a pattern matches, pattern by pattern. -/
def patternErrors (below : Follow) :
    List (Pattern.Search × Schema) → List (String × Json) → List ValueError
  | [], _ => []
  | (r, s) :: qs, ms =>
    (ms.flatMap fun m =>
      if r.matchesText m.1 then ValueError.allInside m.1 (errors below below s m.2) else [])
    ++ patternErrors below qs ms

/-- The errors of a member under each pattern that matches its name, at the value of the member. -/
def matchingErrors (below : Follow) :
    List (Pattern.Search × Schema) → String × Json → List (List ValueError)
  | [], _ => []
  | (r, s) :: qs, m =>
    if r.matchesText m.1 then errors below below s m.2 :: matchingErrors below qs m
    else matchingErrors below qs m

/-- The errors of an object under the schemas of the properties that are there. -/
def dependencyErrors (here below : Follow) :
    List (String × Schema) → List (String × Json) → List ValueError
  | [], _ => []
  | (name, s) :: ps, ms =>
    (if (ms.lookup name).isSome then errors here below s (.object ms) else [])
    ++ dependencyErrors here below ps ms

/-- The errors of items under the schemas of their places. -/
def tupleErrors (below : Follow) : List Schema → Nat → List Json → List ValueError
  | s :: ss, i, x :: xs =>
    ValueError.allInside (toString i) (errors below below s x) ++ tupleErrors below ss (i + 1) xs
  | _, _, _ => []

/-- The parts of a value that a schema has something to say of. -/
def looksAt (here below : Follow) : Schema → Json → List String
  | boolean _, _ => []
  | keywords ks, v => keywordListLooksAt here below ks v

/-- The parts that some keyword of a list has something to say of. -/
def keywordListLooksAt (here below : Follow) : List Keyword → Json → List String
  | [], _ => []
  | k :: ks, v => keywordLooksAt here below k v ++ keywordListLooksAt here below ks v

/-- The parts that a keyword has something to say of. A property counts when it satisfies what is
said. -/
def keywordLooksAt (here below : Follow) : Keyword → Json → List String
  | .reference l, v => here.looksAt l v
  | .allOf ss, v => (eachLooksAt here below ss v).flatten
  | .anyOf ss, v => (eachLooksAt here below ss v).flatten
  | .oneOf ss, v =>
    match eachLooksAt here below ss v with
    | [names] => names
    | _ => []
  | .conditional c t e, v =>
    if (errors here below c v).isEmpty then looksAt here below c v ++ looksAt here below t v
    else looksAt here below e v
  | .properties ps, v =>
    membersWhere (fun m => (declaredErrors? below ps m).any List.isEmpty) v
  | .patternProperties qs, v =>
    membersWhere (fun m => (matchingErrors below qs m).any List.isEmpty) v
  | .closed ps qs rest, v =>
    membersWhere (fun m => (declaredErrors? below ps m).any List.isEmpty
      || (matchingErrors below qs m).any List.isEmpty || (errors below below rest m.2).isEmpty) v
  | .anyProperties, v => membersWhere (fun _ => true) v
  | .dependencies ps, .object ms => dependencyLooksAt here below ps ms
  | .items _, v => itemNames v
  | .tuple ss, v => (itemNames v).take ss.length
  | .additionalItems .., v => itemNames v
  | .itemsFrom .., v => itemNames v
  | .anyItems, v => itemNames v
  | .contains _ _ looksAtItems s, .array xs =>
    if looksAtItems then
      partsWhere (fun m => (errors below below s m.2).isEmpty) (.array xs)
    else []
  | .unevaluatedProperties _ s, v =>
    membersWhere (fun m => (errors below below s m.2).isEmpty) v
  | .unevaluatedItems _ s, .array xs =>
    partsWhere (fun m => (errors below below s m.2).isEmpty) (.array xs)
  | _, _ => []

/-- The parts that each of those schemas which a value satisfies has something to say of. -/
def eachLooksAt (here below : Follow) : List Schema → Json → List (List String)
  | [], _ => []
  | s :: ss, v =>
    if (errors here below s v).isEmpty then
      looksAt here below s v :: eachLooksAt here below ss v
    else eachLooksAt here below ss v

/-- The parts that the schemas of the properties that are there have something to say of. -/
def dependencyLooksAt (here below : Follow) :
    List (String × Schema) → List (String × Json) → List String
  | [], _ => []
  | (name, s) :: ps, ms =>
    (if (ms.lookup name).isSome then looksAt here below s (.object ms) else [])
    ++ dependencyLooksAt here below ps ms
end

end Schema

end TypeCatalog
