import FlowTemplate.Proofs.Computation
import FlowTemplate.Schema.Cache
/-!
# Schemas in a cache

A schema that is under its key is taken as it is; one that is not is read, and kept if it is well
formed.
-/

namespace FlowTemplate.Schema

open FlowTemplate.Computation

/-- What a schema that has been read finds in a value, as lines of text. -/
def Resource.report (r : Resource) (root : String) (v : Value) : Except Fault (List String) :=
  (Standard.library.check false r v).violations?.map (lines root)

/-- A report has a line for each violation. -/
theorem Resource.report_eq_ok {r : Resource} {root : String} {v : Value} {report : List String}
    (h : r.report root v = .ok report) :
    report = lines root (Standard.library.check false r v).violations := by
  rw [Resource.report, Report.violations?] at h
  cases hfault : (Standard.library.check false r v).fault with
  | some fault => rw [hfault] at h; cases h
  | none => rw [hfault] at h; exact (Except.ok.inj h).symm

namespace Cache

variable {cache : Cache} {name root : String} {document v : Value} {resource : Resource}

theorem report_fst (cache : Cache) (name : String) (document : Value) (root : String) (v : Value) :
    (cache.report name document root v).1 =
      (cache.fetch name document).1 >>= fun resource => resource.report root v := rfl

theorem report_snd (cache : Cache) (name : String) (document : Value) (root : String) (v : Value) :
    (cache.report name document root v).2 = (cache.fetch name document).2 := rfl

/-- A report is made of what the schema under the key finds in the value. -/
theorem exists_of_report {report : List String}
    (h : (cache.report name document root v).1 = .ok report) : ∃ resource,
    (cache.fetch name document).1 = .ok resource ∧ resource.report root v = .ok report :=
  bind_eq_ok h

end Cache

theorem ok_of_toOption {α : Type} {x : Except Fault α} {a : α} (h : x.toOption = some a) :
    x = .ok a := by
  cases x with
  | error fault => cases h
  | ok b => exact congrArg Except.ok (Option.some.inj h)

/-- A document is read as a schema if the schema of its dialect has nothing against it. -/
theorem resourceOf_eq {document : Value} {dialect : Dialect}
    (hdialect : rootDialect document = .ok dialect)
    (hclean : (Standard.check dialect document).isClean = .ok true) :
    resourceOf document = .ok { document, dialect } := by
  rw [resourceOf, bind_of_ok hdialect, bind_of_ok hclean]
  rfl

/-- With an empty cache a report comes from the document itself. -/
theorem Cache.report_nil (name : String) (document : Value) (root : String) (v : Value) :
    (Cache.report [] name document root v).1 =
      resourceOf document >>= fun resource => resource.report root v := by
  rw [report_fst, Cache.fetch, List.lookup_nil]
  cases resourceOf document <;> rfl

end FlowTemplate.Schema
