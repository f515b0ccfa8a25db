import FlowTemplate.Proofs.Schema.Acceptance
import FlowTemplate.Proofs.Schema.Triable
/-!
# Histories of a cache

Requests without a name share a cache. Each is answered as it would be alone, except that the first
document before it that is a schema and has the same key stands in for its own. Documents with one
key differ in the order of keys only. That order decides in which order violations are found and how
values are quoted, but not whether a document is a schema.
-/

namespace FlowTemplate.Schema

open FlowTemplate.Computation

/-- A value that is to be held against a document, and the root of the paths to what is found. -/
structure Request where
  document : Value
  root : String
  value : Value

namespace Request

/-- The key of the document. -/
def key (q : Request) : String := cacheKey "" q.document

/-- The document as a schema, if it is one. -/
def resource? (q : Request) : Option Resource := (resourceOf q.document).toOption

/-- What is answered with a cache, and the cache afterwards. -/
def answer (q : Request) (cache : Cache) : Except Fault (List String) × Cache :=
  cache.report "" q.document q.root q.value

/-- What is answered with an empty cache. -/
def alone (q : Request) : Except Fault (List String) := (q.answer []).1

end Request

/-- The first of some requests whose document is a schema under a key. -/
def firstUnder (key : String) (requests : List Request) : Option Request :=
  requests.find? fun q => q.key == key && q.resource?.isSome

/-- The document that a request is answered with after others. -/
def standIn (before : List Request) (q : Request) : Value :=
  ((firstUnder q.key before).map Request.document).getD q.document

/-- The answers to requests one after the other, and the cache afterwards. -/
def Cache.serve : Cache → List Request → List (Except Fault (List String)) × Cache
  | cache, [] => ([], cache)
  | cache, q :: rest =>
    let (answer, cache) := q.answer cache
    let (answers, cache) := cache.serve rest
    (answer :: answers, cache)

/-- The answers to requests, from an empty cache on. -/
def Cache.answers (requests : List Request) : List (Except Fault (List String)) :=
  (Cache.serve [] requests).1

/-- What is in a cache after requests that found it empty. -/
def Cache.after (requests : List Request) : Cache := (Cache.serve [] requests).2

variable {q : Request} {requests : List Request} {i : Nat}

/-! ## One request -/

theorem Resource.report_ne_notSchema (r : Resource) (root : String) (v : Value) :
    r.report root v ≠ .error .notSchema :=
  (Library.spares_libraryCheck Standard.library false r v).violations?.map (lines root)

namespace Request

theorem answer_fst (q : Request) (cache : Cache) : (q.answer cache).1 =
    (match cache.lookup q.key with
      | some r => .ok r
      | none => resourceOf q.document) >>= fun r => r.report q.root q.value := by
  rw [answer, Cache.report_fst, Cache.fetch, ← key]
  cases cache.lookup q.key with
  | some r => rfl
  | none => cases resourceOf q.document <;> rfl

/-- A request leaves what is in the cache, and adds the schema that its document is. -/
theorem lookup_answer (q : Request) (cache : Cache) (key : String) :
    (q.answer cache).2.lookup key =
      (cache.lookup key).or (if q.key = key then q.resource? else none) := by
  rw [answer, Cache.report_snd, Cache.fetch, ← Request.key, resource?]
  cases hlookup : cache.lookup q.key with
  | some r =>
    by_cases hkey : q.key = key
    · rw [if_pos hkey, ← hkey, hlookup, Option.some_or]
    · rw [if_neg hkey, Option.or_none]
  | none =>
    cases resourceOf q.document with
    | error fault => simp [Except.toOption]
    | ok r =>
      dsimp only
      rw [List.lookup_append, List.lookup_cons, List.lookup_nil]
      by_cases hkey : q.key = key
      · rw [if_pos hkey, hkey, beq_self_eq_true]
        rfl
      · rw [if_neg hkey, beq_false_of_ne (Ne.symm hkey)]

/-- A document that is found to be no schema leaves no trace. -/
theorem answer_snd_of_notSchema {cache : Cache} (h : (q.answer cache).1 = .error .notSchema) :
    (q.answer cache).2 = cache := by
  rw [answer_fst] at h
  rw [answer, Cache.report_snd, Cache.fetch, ← key]
  cases hlookup : cache.lookup q.key with
  | some r => rfl
  | none =>
    rw [hlookup] at h
    cases hresource : resourceOf q.document with
    | error fault => rfl
    | ok r =>
      rw [hresource] at h
      exact absurd h (r.report_ne_notSchema q.root q.value)

theorem alone_eq (q : Request) :
    q.alone = resourceOf q.document >>= fun r => r.report q.root q.value :=
  q.answer_fst []

theorem alone_eq_notSchema_iff (q : Request) :
    q.alone = .error .notSchema ↔ resourceOf q.document = .error .notSchema := by
  rw [alone_eq]
  cases resourceOf q.document with
  | error fault =>
    change Except.error fault = _ ↔ Except.error fault = _
    rw [Except.error.injEq, Except.error.injEq]
  | ok r => exact iff_of_false (r.report_ne_notSchema q.root q.value) fun h => by cases h

end Request

/-! ## One request after the other -/

theorem resource?_firstUnder_cons (key : String) (q : Request) (rest : List Request) :
    (firstUnder key (q :: rest)).bind Request.resource? =
      (if q.key = key then q.resource? else none).or
        ((firstUnder key rest).bind Request.resource?) := by
  rw [firstUnder, firstUnder, List.find?_cons]
  by_cases hkey : q.key = key
  · rw [if_pos hkey, hkey, beq_self_eq_true, Bool.true_and]
    cases hresource : q.resource? with
    | none => rfl
    | some r => exact hresource
  · rw [if_neg hkey, beq_false_of_ne hkey]
    rfl

namespace Cache

/-- Under a key there is what was under it before, or else the first schema since. -/
theorem lookup_serve (cache : Cache) (requests : List Request) (key : String) :
    (cache.serve requests).2.lookup key =
      (cache.lookup key).or ((firstUnder key requests).bind Request.resource?) := by
  induction requests generalizing cache with
  | nil => exact Option.or_none.symm
  | cons q rest ih =>
    rw [resource?_firstUnder_cons, ← Option.or_assoc, ← Request.lookup_answer]
    exact ih (q.answer cache).2

theorem lookup_after (requests : List Request) (key : String) :
    (after requests).lookup key = (firstUnder key requests).bind Request.resource? :=
  lookup_serve [] requests key

theorem serve_getElem? (cache : Cache) (hq : requests[i]? = some q) :
    (cache.serve requests).1[i]? = some (q.answer (cache.serve (requests.take i)).2).1 ∧
      (cache.serve (requests.take (i + 1))).2 = (q.answer (cache.serve (requests.take i)).2).2 := by
  induction requests generalizing cache i with
  | nil => cases hq
  | cons first rest ih =>
    cases i with
    | zero =>
      obtain rfl := Option.some.inj hq
      exact ⟨rfl, rfl⟩
    | succ i => exact ih (first.answer cache).2 hq

theorem answers_getElem? (hq : requests[i]? = some q) :
    (answers requests)[i]? = some (q.answer (after (requests.take i))).1 :=
  (serve_getElem? [] hq).1

theorem after_take_succ (hq : requests[i]? = some q) :
    after (requests.take (i + 1)) = (q.answer (after (requests.take i))).2 :=
  (serve_getElem? [] hq).2

/-- After others a request is answered like alone with the document that stands in for its own. -/
theorem answer_after (q : Request) (before : List Request) :
    (q.answer (after before)).1 = ({ q with document := standIn before q } : Request).alone := by
  rw [Request.answer_fst, lookup_after, Request.alone_eq, standIn]
  cases hfirst : firstUnder q.key before with
  | none => rfl
  | some p =>
    have hp := List.find?_some hfirst
    obtain ⟨r, hr⟩ := Option.isSome_iff_exists.mp (Bool.and_eq_true_iff.mp hp).2
    rw [Option.bind_some, hr, Option.map_some, Option.getD_some, ok_of_toOption hr]

end Cache

/-! ## Documents with one key -/

/-- JSON documents with one key differ in the order of keys only. -/
theorem sorted_eq_of_key {v w : Value} (hv : v.IsJson (Json.IsPrintable Json.tightAsciiLine))
    (hw : w.IsJson (Json.IsPrintable Json.tightAsciiLine))
    (h : cacheKey "" v = cacheKey "" w) : sorted v = sorted w := by
  have htext {x : Value} (hx : x.IsJson (Json.IsPrintable Json.tightAsciiLine)) :
      (sorted x).json? Json.tightAsciiLine = some (cacheKey "" x) := by
    rw [Value.json?_tree hx.sorted.isTree, cacheKey, Value.json?_tree hx.sorted.isTree]
    rfl
  exact Json.eq_of_json? hv.sorted hw.sorted (by rw [htext hv, htext hw, h])

variable {before : List Request}

/-- What stands in for a document is a schema before the request, or the document itself. -/
theorem standIn_cases (before : List Request) (q : Request) : standIn before q = q.document ∨
    ∃ p ∈ before, p.key = q.key ∧ (∃ r, resourceOf p.document = .ok r) ∧
      standIn before q = p.document := by
  rw [standIn]
  cases hfirst : firstUnder q.key before with
  | none => exact .inl rfl
  | some p =>
    have hp := List.find?_some hfirst
    obtain ⟨hkey, hresource⟩ := Bool.and_eq_true_iff.mp hp
    obtain ⟨r, hr⟩ := Option.isSome_iff_exists.mp hresource
    exact .inr ⟨p, List.mem_of_find?_eq_some hfirst, beq_iff_eq.mp hkey, ⟨r, ok_of_toOption hr⟩, rfl⟩

section Json

variable (hbefore : ∀ p ∈ before, p.document.IsJson (Json.IsPrintable Json.tightAsciiLine))
  (hq : q.document.IsJson (Json.IsPrintable Json.tightAsciiLine))

include hbefore hq

theorem sorted_standIn : sorted (standIn before q) = sorted q.document := by
  rcases standIn_cases before q with hown | ⟨p, hp, hkey, -, hother⟩
  · rw [hown]
  · rw [hother]
    exact sorted_eq_of_key (hbefore p hp) hq hkey

/-- What stands in for a document is a schema if the document is one. -/
theorem alone_standIn_eq_notSchema_iff :
    ({ q with document := standIn before q } : Request).alone = .error .notSchema ↔
      q.alone = .error .notSchema := by
  rw [Request.alone_eq_notSchema_iff, Request.alone_eq_notSchema_iff]
  rcases standIn_cases before q with hown | ⟨p, hp, hkey, hschema, hother⟩
  · rw [hown]
  · have hsorted := sorted_eq_of_key (hbefore p hp) hq hkey
    obtain ⟨s, hs⟩ := (resourceOf_sorted (hbefore p hp) hq hsorted).mp hschema
    obtain ⟨r, hr⟩ := hschema
    rw [hother, hr, hs]
    exact iff_of_false (fun h => by cases h) fun h => by cases h

/-- Nothing stands in for a document if no other one has the same entries. -/
theorem standIn_eq_of_unlike
    (h : ∀ p ∈ before, sorted p.document = sorted q.document → p.document = q.document) :
    standIn before q = q.document := by
  rcases standIn_cases before q with hown | ⟨p, hp, hkey, -, hother⟩
  · exact hown
  · exact hother.trans (h p hp (sorted_eq_of_key (hbefore p hp) hq hkey))

end Json

/-- A cache is seen through. Each request is answered like alone with the first document before it
that is a schema under the same key, or else with its own; one that ends with the verdict that its
document is no schema leaves the cache as it was. If the documents are JSON, what stands in for a
document differs from it in the order of keys only, the verdict is the one that an empty cache gives,
and so is the whole answer if no document before is the same but for that order. -/
theorem Cache.answers_standIn (hq : requests[i]? = some q) :
    (Cache.answers requests)[i]? =
        some ({ q with document := standIn (requests.take i) q } : Request).alone ∧
      ((Cache.answers requests)[i]? = some (.error .notSchema) →
        Cache.after (requests.take (i + 1)) = Cache.after (requests.take i)) ∧
      ((∀ p ∈ requests, p.document.IsJson (Json.IsPrintable Json.tightAsciiLine)) →
        sorted (standIn (requests.take i) q) = sorted q.document ∧
        ((Cache.answers requests)[i]? = some (.error .notSchema) ↔ q.alone = .error .notSchema) ∧
        ((∀ p ∈ requests.take i, sorted p.document = sorted q.document →
            p.document = q.document) →
          (Cache.answers requests)[i]? = some q.alone)) := by
  rw [Cache.answers_getElem? hq, Cache.after_take_succ hq]
  refine ⟨congrArg some (Cache.answer_after q _), fun herror => ?_, fun hjson => ?_⟩
  · exact Request.answer_snd_of_notSchema (Option.some.inj herror)
  have hown := hjson q (List.mem_of_getElem? hq)
  have hbefore (p : Request) (hp : p ∈ requests.take i) := hjson p (List.mem_of_mem_take hp)
  rw [Cache.answer_after, Option.some.injEq]
  refine ⟨sorted_standIn hbefore hown, alone_standIn_eq_notSchema_iff hbefore hown, fun hunlike => ?_⟩
  rw [standIn_eq_of_unlike hbefore hown hunlike]

/-! ## Two orders of keys -/

/-- A text of two characters at least with an `x` in it, the length first. -/
def lengthFirst : Value :=
  .object [("$schema", .str "http://json-schema.org/draft-07/schema#"), ("minLength", .int 2),
    ("pattern", .str "x")]

/-- The same, with the pattern first. -/
def patternFirst : Value :=
  .object [("$schema", .str "http://json-schema.org/draft-07/schema#"), ("pattern", .str "x"),
    ("minLength", .int 2)]

/-- No schema: a length has to be a number. -/
def lengthInWords : Value :=
  .object [("$schema", .str "http://json-schema.org/draft-07/schema#"), ("minLength", .str "two")]

def askLengthFirst : Request := ⟨lengthFirst, "$", .str "a"⟩

def askPatternFirst : Request := ⟨patternFirst, "$", .str "a"⟩

def askInWords : Request := ⟨lengthInWords, "$", .str "a"⟩

theorem resourceOf_lengthFirst : resourceOf lengthFirst = .ok ⟨lengthFirst, .draft7⟩ :=
  resourceOf_eq (ok_of_toOption (by decide +kernel)) (ok_of_toOption (by decide +kernel))

theorem resourceOf_patternFirst : resourceOf patternFirst = .ok ⟨patternFirst, .draft7⟩ :=
  resourceOf_eq (ok_of_toOption (by decide +kernel)) (ok_of_toOption (by decide +kernel))

theorem isJson_lengthFirst : lengthFirst.IsJson (Json.IsPrintable Json.tightAsciiLine) :=
  .object (by decide) (by
    simp only [List.forall_mem_cons]
    exact ⟨⟨by decide, .str (by decide)⟩, ⟨by decide, .int 2⟩, ⟨by decide, .str (by decide)⟩, nofun⟩)

theorem isJson_patternFirst : patternFirst.IsJson (Json.IsPrintable Json.tightAsciiLine) :=
  .object (by decide) (by
    simp only [List.forall_mem_cons]
    exact ⟨⟨by decide, .str (by decide)⟩, ⟨by decide, .str (by decide)⟩, ⟨by decide, .int 2⟩, nofun⟩)

theorem isJson_lengthInWords : lengthInWords.IsJson (Json.IsPrintable Json.tightAsciiLine) :=
  .object (by decide) (by
    simp only [List.forall_mem_cons]
    exact ⟨⟨by decide, .str (by decide)⟩, ⟨by decide, .str (by decide)⟩, nofun⟩)

theorem sorted_patternFirst : sorted patternFirst = sorted lengthFirst := by
  have hlength : keyLe (.str "$schema") (.str "minLength") = true := by decide
  have hpattern : keyLe (.str "$schema") (.str "pattern") = true := by decide
  have hle : keyLe (.str "minLength") (.str "pattern") = true := by decide
  have hge : keyLe (.str "pattern") (.str "minLength") = false := by decide
  simp [patternFirst, lengthFirst, Value.object, Entries.sorted, List.mergeSort,
    List.MergeSort.Internal.splitInTwo, hlength, hpattern, hle, hge]

theorem standIn_askPatternFirst : standIn [askLengthFirst] askPatternFirst = lengthFirst := by
  have hkey : askLengthFirst.key = askPatternFirst.key := by
    change cacheKey "" lengthFirst = cacheKey "" patternFirst
    rw [cacheKey, cacheKey, sorted_patternFirst]
  have hresource : askLengthFirst.resource?.isSome = true := by
    change (resourceOf lengthFirst).toOption.isSome = true
    rw [resourceOf_lengthFirst]
    rfl
  rw [standIn, firstUnder, List.find?_cons, hkey, beq_self_eq_true, hresource]
  rfl

/-- Violations of a value itself stay in the order in which they are found. -/
theorem lines_here (root : String) (messages : List String) :
    lines root (messages.map .here) = messages.map fun message => root ++ ": " ++ message := by
  have hle : (messages.map Violation.here).Pairwise fun a b => Violation.le a b = true :=
    List.pairwise_map.mpr (List.pairwise_of_forall fun _ _ => rfl)
  rw [lines, List.mergeSort_of_pairwise hle, List.map_map]
  refine List.map_congr_left fun message _ => ?_
  simp [Violation.here, Violation.text]

theorem Request.alone_of_here {q : Request} {r : Resource} (messages : List String)
    (hresource : resourceOf q.document = .ok r)
    (hviolations : (Standard.library.check false r q.value).violations = messages.map .here)
    (hfault : (Standard.library.check false r q.value).fault = none) :
    q.alone = .ok (messages.map fun message => q.root ++ ": " ++ message) := by
  rw [alone_eq, bind_of_ok hresource, Resource.report, Report.violations?, hfault, hviolations,
    Except.map, lines_here]

theorem alone_askLengthFirst :
    askLengthFirst.alone = .ok ["$: 'a' is too short", "$: 'a' does not match 'x'"] :=
  Request.alone_of_here ["'a' is too short", "'a' does not match 'x'"] resourceOf_lengthFirst
    (by decide +kernel) (by decide +kernel)

theorem alone_askPatternFirst :
    askPatternFirst.alone = .ok ["$: 'a' does not match 'x'", "$: 'a' is too short"] :=
  Request.alone_of_here ["'a' does not match 'x'", "'a' is too short"] resourceOf_patternFirst
    (by decide +kernel) (by decide +kernel)

theorem alone_askInWords : askInWords.alone = .error .notSchema := by
  have hdialect : rootDialect lengthInWords = .ok .draft7 := ok_of_toOption (by decide +kernel)
  have hclean : (Standard.check .draft7 lengthInWords).isClean = .ok false :=
    ok_of_toOption (by decide +kernel)
  rw [Request.alone_eq_notSchema_iff]
  change resourceOf lengthInWords = _
  rw [resourceOf, bind_of_ok hdialect, bind_of_ok hclean]
  rfl

/-- After a schema with its keys in another order a request is answered like that one, and a document
that is no schema is told to be none and leaves no trace. A schema that comes again is answered as
before. -/
theorem Cache.answers_askInWords :
    (Cache.answers [askLengthFirst, askPatternFirst, askInWords])[1]? = some askLengthFirst.alone ∧
      (Cache.answers [askLengthFirst, askPatternFirst, askInWords])[2]? =
        some (.error .notSchema) ∧
      Cache.after [askLengthFirst, askPatternFirst, askInWords] =
        Cache.after [askLengthFirst, askPatternFirst] ∧
      (Cache.answers [askLengthFirst, askLengthFirst])[1]? = some askLengthFirst.alone := by
  have hjson : ∀ p ∈ [askLengthFirst, askPatternFirst, askInWords],
      p.document.IsJson (Json.IsPrintable Json.tightAsciiLine) := by
    simp only [List.forall_mem_cons]
    exact ⟨isJson_lengthFirst, isJson_patternFirst, isJson_lengthInWords, nofun⟩
  have hagain : ∀ p ∈ [askLengthFirst, askLengthFirst],
      p.document.IsJson (Json.IsPrintable Json.tightAsciiLine) := by
    simp only [List.forall_mem_cons]
    exact ⟨isJson_lengthFirst, isJson_lengthFirst, nofun⟩
  obtain ⟨hsecond, -, -⟩ := Cache.answers_standIn
    (show [askLengthFirst, askPatternFirst, askInWords][1]? = some askPatternFirst from rfl)
  obtain ⟨-, hkept, hverdict⟩ := Cache.answers_standIn
    (show [askLengthFirst, askPatternFirst, askInWords][2]? = some askInWords from rfl)
  obtain ⟨-, -, hsame⟩ := Cache.answers_standIn
    (show [askLengthFirst, askLengthFirst][1]? = some askLengthFirst from rfl)
  have hthird := (hverdict hjson).2.1.mpr alone_askInWords
  change _ = some ({ askPatternFirst with
    document := standIn [askLengthFirst] askPatternFirst } : Request).alone at hsecond
  rw [standIn_askPatternFirst] at hsecond
  refine ⟨hsecond, hthird, hkept hthird, (hsame hagain).2.2 fun p hp _ => ?_⟩
  rw [List.mem_singleton.mp hp]

/-- The messages of a schema come in the order in which another one has its keys. -/
theorem Cache.answers_lengthBeforePattern :
    (Cache.answers [askLengthFirst, askPatternFirst])[1]? =
        some (.ok ["$: 'a' is too short", "$: 'a' does not match 'x'"]) ∧
      askPatternFirst.alone = .ok ["$: 'a' does not match 'x'", "$: 'a' is too short"] ∧
      (Cache.answers [askLengthFirst, askPatternFirst])[1]? ≠ some askPatternFirst.alone := by
  have hanswer : (Cache.answers [askLengthFirst, askPatternFirst])[1]? =
      some (.ok ["$: 'a' is too short", "$: 'a' does not match 'x'"]) := by
    rw [Cache.answers_getElem? rfl, Cache.answer_after]
    change some ({ askPatternFirst with
      document := standIn [askLengthFirst] askPatternFirst } : Request).alone = _
    rw [standIn_askPatternFirst]
    exact congrArg some alone_askLengthFirst
  refine ⟨hanswer, alone_askPatternFirst, fun h => ?_⟩
  rw [hanswer, alone_askPatternFirst] at h
  exact absurd (Except.ok.inj (Option.some.inj h)) (by decide)

end FlowTemplate.Schema
