import Telemetry.Config
import Telemetry.Proofs.Attributes.Canonical
import Telemetry.Proofs.Resource.AttributeText

/-! The name of the service in the environment, which is read twice: for the settings, and for the
resource. The readings agree for every text but one of blanks, which is a name to the resource
alone. Main result: `serviceName_agrees_iff`. -/
namespace Telemetry

namespace Environment

variable {e : Environment} {name other : String}

/-- The environment without a variable. -/
def unset (e : Environment) (name : String) : Environment := ⟨e.entries.filter (·.1 != name)⟩

theorem get?_unset_self : (e.unset name).get? name = none := by
  have missing : (e.unset name).value? name = none := by
    rw [value?, Option.map_eq_none_iff, List.find?_eq_none]
    intro x there
    have kept := (List.mem_filter.mp (List.mem_reverse.mp there)).2
    simpa using kept
  rw [get?, missing]
  rfl

theorem get?_unset_of_ne (different : other ≠ name) : (e.unset name).get? other = e.get? other := by
  have asked : (fun x : String × EnvironmentValue => decide ((x.1 != name) = true ∧
      (x.1 == other) = true)) = fun x => x.1 == other := by
    funext x
    by_cases here : x.1 = other
    · simp [here, different]
    · simp [here]
  have same : (e.unset name).value? other = e.value? other := by
    rw [value?, unset, ← List.filter_reverse, List.find?_filter, asked, value?]
  rw [get?, same, get?]

end Environment

namespace Config

theorem serviceName_ofEnvironment {e : Environment} {c : Config}
    (read : ofEnvironment e = .ok c) : c.serviceName = e.getFilled? "OTEL_SERVICE_NAME" := by
  simp only [ofEnvironment, Reading.mapError_eq_ok_iff, readEnvironment,
    Reading.bind_eq_ok_iff] at read
  obtain ⟨_, _, _, _, _, _, _, _, _, _, _, _, same⟩ := read
  cases same
  rfl

end Config

namespace ResourceBuilder

variable {e : Environment} {c : Config} {b : ResourceBuilder} {r : Resource} {name : String}

theorem environmentName_withEnvironment : (b.withEnvironment e).environmentName =
    (e.get? "OTEL_SERVICE_NAME").filter (!·.isEmpty) := rfl

/-- A name in the environment has the last word. -/
theorem get?_of_environmentName (given : b.environmentName = some name) (built : b.build = .ok r) :
    r.get? Resource.serviceNameKey = some (.string name) := by
  obtain ⟨pairs, _, rfl⟩ := build_eq_ok_iff.mp built
  refine Attributes.get?_ofList.trans ?_
  rw [Attributes.lastValue?, sources, given, Attributes.last?_append]
  rfl

/-- The name is set to blanks, at least one. -/
def BlankName (e : Environment) : Prop :=
  ∃ blanks, e.get? "OTEL_SERVICE_NAME" = some blanks ∧ blanks.isEmpty = false ∧
    Text.Blank blanks.toList

theorem BlankName.readings (blank : BlankName e) : e.getFilled? "OTEL_SERVICE_NAME" = none ∧
    (b.withEnvironment e).environmentName = e.get? "OTEL_SERVICE_NAME" := by
  obtain ⟨blanks, set, filled, blank⟩ := blank
  rw [Environment.getFilled?, environmentName_withEnvironment, set]
  exact ⟨Option.filter_some_neg (by simpa using Text.allBlank_iff.mpr blank),
    Option.filter_some_pos (by simpa using filled)⟩

/-- The readings differ for a name of blanks alone. -/
theorem environmentName_eq_iff :
    (b.withEnvironment e).environmentName = e.getFilled? "OTEL_SERVICE_NAME" ↔ ¬BlankName e := by
  constructor
  · intro same blank
    obtain ⟨none, some⟩ := blank.readings (b := b)
    obtain ⟨blanks, set, _⟩ := blank
    rw [none, some, set] at same
    cases same
  · intro proper
    rw [Environment.getFilled?, environmentName_withEnvironment]
    cases set : e.get? "OTEL_SERVICE_NAME" with
    | none => rfl
    | some text =>
      by_cases blank : Text.allBlank text.toList = true
      · have empty : text.isEmpty = true := by
          by_contra filled
          exact proper ⟨text, set, by simpa using filled, Text.allBlank_iff.mp blank⟩
        simp [Option.filter_some, empty, blank]
      · have filled : text.isEmpty = false := by
          by_contra empty
          obtain rfl := String.isEmpty_iff.mp (by simpa using empty)
          exact blank rfl
        simp [Option.filter_some, filled, blank]

/-- A name that is not set or is empty could as well be unset. -/
theorem withEnvironment_unset (unnamed : (b.withEnvironment e).environmentName = none) :
    b.withEnvironment (e.unset "OTEL_SERVICE_NAME") = b.withEnvironment e := by
  rw [environmentName_withEnvironment] at unnamed
  have texts : (e.unset "OTEL_SERVICE_NAME").get? "OTEL_RESOURCE_ATTRIBUTES" =
      e.get? "OTEL_RESOURCE_ATTRIBUTES" := Environment.get?_unset_of_ne (by decide)
  rw [withEnvironment, withEnvironment, texts, Environment.get?_unset_self, unnamed]
  rfl

/-- For the settings and for the resource the environment has the same name of the service exactly
where it does not set it to blanks. A name that the settings have is the resource's. Where they have
none, the resource is the one that it would be without the variable, but for a name of blanks, which
is the resource's. -/
theorem serviceName_agrees_iff (read : Config.ofEnvironment e = .ok c) (b : ResourceBuilder) :
    ((b.withEnvironment e).environmentName = c.serviceName ↔ ¬BlankName e) ∧
      ∀ r, (b.withEnvironment e).build = .ok r →
        (∀ name, c.serviceName = some name →
          r.get? Resource.serviceNameKey = some (.string name)) ∧
        (c.serviceName = none → ¬BlankName e →
          (b.withEnvironment (e.unset "OTEL_SERVICE_NAME")).build = .ok r) ∧
        (BlankName e → c.serviceName = none ∧
          r.get? Resource.serviceNameKey = (e.get? "OTEL_SERVICE_NAME").map .string) := by
  rw [Config.serviceName_ofEnvironment read]
  refine ⟨environmentName_eq_iff, fun r built => ⟨fun name given => ?_, fun unnamed proper => ?_,
    fun blank => ?_⟩⟩
  · have proper : ¬BlankName e := by
      intro blank
      rw [(blank.readings (b := b)).1] at given
      cases given
    exact get?_of_environmentName ((environmentName_eq_iff.mpr proper).trans given) built
  · rw [withEnvironment_unset ((environmentName_eq_iff.mpr proper).trans unnamed)]
    exact built
  · obtain ⟨unnamed, taken⟩ := blank.readings (b := b)
    refine ⟨unnamed, ?_⟩
    obtain ⟨blanks, set, _⟩ := blank
    rw [set] at taken ⊢
    exact get?_of_environmentName taken built

def spacedName : Environment := ⟨[("OTEL_SERVICE_NAME", .text " shop ")]⟩

theorem serviceName_agrees_iff_spaced :
    ∃ c r, Config.ofEnvironment spacedName = .ok c ∧ c.serviceName = some " shop " ∧
      ((({} : ResourceBuilder).withServiceName "demo").withEnvironment spacedName).build = .ok r ∧
      r.get? Resource.serviceNameKey = some (.string " shop ") := by
  have read : ∃ c, Config.ofEnvironment spacedName = .ok c ∧ c.serviceName = some " shop " :=
    ⟨_, rfl, rfl⟩
  have built : ∃ r,
      ((({} : ResourceBuilder).withServiceName "demo").withEnvironment spacedName).build = .ok r :=
    ⟨_, rfl⟩
  obtain ⟨c, read, name⟩ := read
  obtain ⟨r, built⟩ := built
  exact ⟨c, r, read, name, built, ((serviceName_agrees_iff read _).2 r built).1 _ name⟩

def blankName : Environment := ⟨[("OTEL_SERVICE_NAME", .text " ")]⟩

/-- To the settings this name is none, and the resource takes it in place of the one it was given. -/
theorem blankName_taken :
    ∃ c r, Config.ofEnvironment blankName = .ok c ∧ c.serviceName = none ∧
      ((({} : ResourceBuilder).withServiceName "demo").withEnvironment blankName).build = .ok r ∧
      r.get? Resource.serviceNameKey = some (.string " ") := by
  have read : ∃ c, Config.ofEnvironment blankName = .ok c ∧ c.serviceName = none := ⟨_, rfl, rfl⟩
  have built : ∃ r,
      ((({} : ResourceBuilder).withServiceName "demo").withEnvironment blankName).build = .ok r :=
    ⟨_, rfl⟩
  obtain ⟨c, read, name⟩ := read
  obtain ⟨r, built⟩ := built
  exact ⟨c, r, read, name, built, get?_of_environmentName (by rfl) built⟩

end ResourceBuilder
end Telemetry
