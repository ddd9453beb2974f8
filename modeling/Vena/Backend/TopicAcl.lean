import Vena.Backend.Access
import Vena.Core.TopicFilter

/-!
# Topic Filters and the Broker's Question

`/mqtt/acl` looks at the first two levels of a string and knows nothing of
wildcards, but what the broker asks about may be a filter. The second level of
a filter it accepts is an id of the token, letter by letter. As long as no id of
the token reads as a wildcard, the filter names topics of that id only.

## Main definitions

* `levelOf`, `NamesTopic`: The wildcards of MQTT, and the topics of a filter.
* `Authorises`: The ids of a token.
* `Plain`: No wildcard and no separator.

## Theorems

* `acl_wildcards`: What the topics of an accepted filter begin with.
-/

namespace Vena

namespace Backend

open Python TopicFilter

/-- A level of a filter as the broker reads it. -/
def levelOf (level : String) : Level String :=
  if level = "+" then .one else if level = "#" then .rest else .exact level

/-- The filter names the topic. -/
def NamesTopic (filter topic : String) : Prop :=
  Matches ((split '/' filter).map levelOf) (split '/' topic)

instance (filter topic : String) : Decidable (NamesTopic filter topic) :=
  inferInstanceAs (Decidable (Matches _ _))

example : NamesTopic "vena/+/telemetry" "vena/a/telemetry" := by decide

/-- The string is neither a wildcard nor more than one level. -/
def Plain (s : String) : Prop := '+' ∉ s.toList ∧ '#' ∉ s.toList ∧ '/' ∉ s.toList

/-- The token is made out for the device. -/
def Authorises (payload : Claims) (deviceId : String) : Prop :=
  (payload.scope = some "app" ∧ deviceId ∈ payload.devices.getD []) ∨
    (payload.scope = some "device" ∧ payload.deviceId = some deviceId)

theorem levelOf_plain (s : String) (h : Plain s) : levelOf s = .exact s := by
  unfold levelOf
  rw [if_neg, if_neg]
  · rintro rfl
    exact h.2.1 (by decide)
  · rintro rfl
    exact h.1 (by decide)

theorem levelOf_vena : levelOf "vena" = .exact "vena" :=
  levelOf_plain "vena" ⟨by decide, by decide, by decide⟩

/-- The topics of a filter whose first two levels are no wildcards. -/
theorem topic_of_filter (filter topic id : String) (rest : List String)
    (hfilter : split '/' filter = "vena" :: id :: rest) (hplain : Plain id)
    (h : NamesTopic filter topic) : ∃ more, split '/' topic = "vena" :: id :: more := by
  rw [NamesTopic, hfilter, List.map_cons, List.map_cons, levelOf_vena, levelOf_plain id hplain] at h
  rcases matches_exact "vena" _ _ h with ⟨levels, htopic, hlevels⟩
  rcases matches_exact id _ _ hlevels with ⟨more, hmore, _⟩
  exact ⟨more, by rw [htopic, hmore]⟩

/-- Every topic an accepted filter names is one of an id of the token, and the
    tokens of other scopes are accepted for nothing. -/
theorem acl_wildcards (env : Env) (username : String) (now : Datetime) (payload : Claims)
    (hdecode : env.decode username now = some payload)
    (hplain : ∀ id, Authorises payload id → Plain id) (hbackend : payload.scope ≠ some "backend") :
    (∀ filter, mqttAcl env username filter now = 200 → ∀ topic, NamesTopic filter topic →
      ∃ id more, split '/' topic = "vena" :: id :: more ∧ Authorises payload id) ∧
    (payload.scope ≠ some "app" → payload.scope ≠ some "device" →
      ∀ filter, mqttAcl env username filter now ≠ 200) := by
  -- What a 200 says about the token.
  have hok : ∀ filter, mqttAcl env username filter now = 200 →
      ∃ id rest, split '/' filter = "vena" :: id :: rest ∧ Authorises payload id := by
    intro filter h
    rcases Access.mqttAcl_ok env username filter now h with
      ⟨claims, id, rest, hclaims, hsplit, hscope⟩
    rw [hdecode, Option.some.injEq] at hclaims
    rw [← hclaims] at hscope
    exact ⟨id, rest, hsplit, hscope.resolve_left hbackend⟩
  constructor
  · intro filter h topic hnames
    rcases hok filter h with ⟨id, rest, hsplit, hid⟩
    rcases topic_of_filter filter topic id rest hsplit (hplain id hid) hnames with ⟨more, hmore⟩
    exact ⟨id, more, hmore, hid⟩
  · intro happ hdevice filter h
    rcases hok filter h with ⟨id, rest, _, hid | hid⟩
    · exact happ hid.1
    · exact hdevice hid.1

/-- The claims of the device token that `demoEnv` knows. -/
def demoDevice : Claims where
  sub := some "vena-b"
  scope := some "device"
  email := none
  devices := none
  deviceId := some "vena-b"
  iat := 0
  exp := 2147483647

theorem plain_of_demoDevice (id : String) (h : Authorises demoDevice id) : Plain id := by
  rcases h with ⟨happ, _⟩ | ⟨_, hid⟩
  · exact absurd happ (by decide)
  · rw [← Option.some.inj hid]
    exact ⟨by decide, by decide, by decide⟩

/-- A device subscribes to everything of its own. -/
theorem acl_wildcards_device :
    mqttAcl Access.demoEnv "device" "vena/vena-b/#" 0 = 200 ∧
    ∃ id more, split '/' "vena/vena-b/telemetry" = "vena" :: id :: more ∧
      Authorises demoDevice id := by
  have hok : mqttAcl Access.demoEnv "device" "vena/vena-b/#" 0 = 200 := by decide
  have hnames : NamesTopic "vena/vena-b/#" "vena/vena-b/telemetry" := by decide
  exact ⟨hok, (acl_wildcards Access.demoEnv "device" 0 demoDevice rfl plain_of_demoDevice
    (by decide)).1 "vena/vena-b/#" hok "vena/vena-b/telemetry" hnames⟩

end Backend

end Vena
