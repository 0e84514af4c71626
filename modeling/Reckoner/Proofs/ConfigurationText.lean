import Reckoner.Proofs.JsonRecords

namespace Reckoner

open Json

theorem ResultType.reads (t : ResultType) : Reads reader t.toJson t := by
  cases t with
  | untyped => exact null_reads.map rfl
  | date => exact (optionalString_reads "Date").map rfl
  | string => exact (optionalString_reads "String").map rfl
  | number => exact (optionalString_reads "Number").map rfl
  | boolean => exact (optionalString_reads "Boolean").map rfl

theorem Definition.reads (d : Definition) : Reads reader d.toJson d := by
  have name := once_reads (string_reads d.name) fun name => Draft.mk name none none
  have operation := once_reads (string_reads d.operation) fun operation => Draft.mk (some d.name) operation none
  have type := once_reads (ResultType.reads d.type) (Draft.mk (some d.name) (some d.operation))
  exact (record_reads _ (.cons rfl name (.cons rfl operation (.cons rfl type .nil)))).bind_pure rfl

theorem Configuration.reads (c : Configuration) : Reads reader c.toJson c := by
  have name := once_reads (string_reads c.name) fun name => Draft.mk name none
  have definitions := once_reads (list_reads Definition.reads c.definitions) (Draft.mk (some c.name))
  exact (record_reads _ (.cons rfl name (.cons rfl definitions .nil))).bind_pure rfl

theorem Settings.reads (s : Settings) : Reads reader s.toJson s := by
  have moduleName := once_reads (string_reads s.moduleName) fun name => Draft.mk name none none
  have builtins := once_reads (bool_reads s.builtins) fun builtins => Draft.mk (some s.moduleName) builtins none
  have duplicates := once_reads (bool_reads s.rejectDuplicates) (Draft.mk (some s.moduleName) (some s.builtins))
  exact (record_reads _ (.cons rfl moduleName (.cons rfl builtins (.cons rfl duplicates .nil)))).bind_pure rfl

/-- The texts that are written are a canonical form of the texts that are read: what is written is read back, of every
text the same is read as of the canonical one, two texts have one canonical text exactly if the same is read of them,
and a canonical text is its own. -/
structure Canonical {α : Type} (read? : String → Option α) (write : α → String) : Prop where
  reads (a : α) : read? (write a) = some a
  again (text : String) : ((read? text).map write).bind read? = read? text
  one {text other : String} {a b : α} : read? text = some a → read? other = some b → (write a = write b ↔ a = b)
  settled (text : String) : (((read? text).map write).bind read?).map write = (read? text).map write

theorem Canonical.of_reads {α : Type} {read? : String → Option α} {write : α → String}
    (reads : ∀ a, read? (write a) = some a) : Canonical read? write := by
  have again : ∀ text, ((read? text).map write).bind read? = read? text := by
    intro text
    cases read? text with
    | none => rfl
    | some a => exact reads a
  refine ⟨reads, again, fun {_ _ a b} _ _ => ⟨fun same => ?_, congrArg write⟩, fun text => by rw [again]⟩
  exact Option.some.inj ((reads a).symm.trans ((congrArg read? same).trans (reads b)))

/-- Configurations, definitions and settings are read back from their JSON texts, which are canonical. -/
theorem documents_canonical :
    Canonical Configuration.read? (fun c => c.toJson.compact) ∧
      Canonical Definition.read? (fun d => d.toJson.compact) ∧
      Canonical Settings.read? (fun s => s.toJson.compact) :=
  ⟨.of_reads fun c => c.reads.readDocument?, .of_reads fun d => d.reads.readDocument?,
    .of_reads fun s => s.reads.readDocument?⟩

/-- Lists in place of records, an unknown type, a missing one, and a member that no definition has. -/
theorem documents_canonical_lenient :
    ((Configuration.read? "[\"plan\", [[\"a\", \"return 1;\", \"Currency\"],
        \x7b\"variable_name\": \"b\", \"note\": [1], \"calculation_operation\": \"return '\\u0001\\n';\"\x7d]]").map
      (fun c => c.toJson.compact)).bind Configuration.read? =
        some ⟨"plan", [⟨"a", "return 1;", .untyped⟩, ⟨"b", "return '\x01\n';", .untyped⟩]⟩ :=
  (documents_canonical.1.again _).trans (by decide +kernel)

end Reckoner
