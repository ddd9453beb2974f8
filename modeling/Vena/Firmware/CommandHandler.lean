import Vena.Core.Run
import Vena.Firmware.ArduinoJson
import Vena.Firmware.PeltierController

/-!
# Commands over MQTT

From a message of the broker to the setpoint: `MqttPublisher::handleMessage`
looks at the topic and parses the payload, and `handleCommand` looks for a
member `setpoint` and hands over what `as<float>()` makes of it. That member is
not asked whether it is a number, as the provisioning callback asks its members
whether they are strings, and `as<float>()` has an answer for everything.

`wanted` is the number that the commands so far have asked for. It is only
written, by a definition that says which payloads are commands at all.

## Main definitions

* `Board`: The topic, the handler and the controller.
* `handleMessage`, `handleCommand`: The path of a message.
* `step`: The pieces of `setup()` and `loop()` that touch any of it.
* `requested`: The number a message asks for.
* `Harmless`: A setpoint that is no number comes when it changes nothing.

## Theorems

* `obeys_message`: When one message leaves the setpoint as wanted.
* `obeys_iff_harmless`: The same of a run.
-/

namespace Vena

namespace Firmware

namespace CommandHandler

open Run

/-- The MQTT half of the firmware as far as commands go. Behind it, the setpoint
    that the commands so far ask for. -/
structure Board where
  topicCmd : String
  cmdHandler : Bool
  peltier : PeltierController
  wanted : ℚ

/-- The command topic of the device. -/
def cmdTopic (deviceId : String) : String := "vena/" ++ deviceId ++ "/cmd"

/-- Behind `mqtt.begin` and `mqtt.onCommand` in `setup()`. -/
def initial (deviceId : String) (peltier : PeltierController) : Board where
  topicCmd := cmdTopic deviceId
  cmdHandler := true
  peltier := peltier
  wanted := peltier.setpoint

section Messages

variable {ν : Type} (json : ArduinoJson ν)

def handleCommand (doc : JsonVariant ν) (peltier : PeltierController) : PeltierController :=
  if doc.containsKey "setpoint" then
    peltier.setSetpoint (json.asFloat (doc.member "setpoint"))
  else peltier

/-- `topic` is the C string that `strcmp` sees. -/
def handleMessage (topic : String) (payload : List Nat) (s : Board) : Board :=
  if !s.cmdHandler then s
  else if topic ≠ s.topicCmd then s
  else match json.deserializeJson payload with
    | none => s
    | some doc => { s with peltier := handleCommand json doc s.peltier }

/-- A message to the command topic whose payload is an object with a number for
    a setpoint asks for that number. Any other asks for nothing. -/
def requested (deviceId topic : String) (payload : List Nat) : Option ℚ :=
  if topic = cmdTopic deviceId then
    match json.deserializeJson payload with
    | some doc => (doc.member "setpoint").numberOf.map json.valueOf
    | none => none
  else none

inductive Action where
  /-- A message of the broker. -/
  | message (topic : String) (payload : List Nat)
  /-- `mqtt.begin`, once more after the WiFi came back. -/
  | mqttBegin
  | onCommand
  /-- `peltier.update`. -/
  | update (now : Nat) (pvTemperature : ℚ)
  deriving DecidableEq

def step (deviceId : String) (s : Board) : Action → Option Board
  | .message topic payload => some { handleMessage json topic payload s with
      wanted := (requested json deviceId topic payload).getD s.wanted }
  | .mqttBegin => some { s with topicCmd := cmdTopic deviceId }
  | .onCommand => some { s with cmdHandler := true }
  | .update now pv => some { s with peltier := s.peltier.update pidTuning now pv }

/-- The setpoint is the one that was asked for. -/
def Obeys (s : Board) : Prop := s.peltier.setpoint = s.wanted

instance (s : Board) : Decidable (Obeys s) :=
  inferInstanceAs (Decidable (s.peltier.setpoint = s.wanted))

/-- If a message to the command topic has a setpoint that is not a number, then
    the setpoint is already what `as<float>()` makes of it. -/
def Harmless (deviceId : String) (s : Board) : Action → Prop
  | .message topic payload => topic = cmdTopic deviceId →
      ∀ doc, json.deserializeJson payload = some doc → doc.containsKey "setpoint" = true →
        (doc.member "setpoint").isNumber = false →
          s.peltier.setpoint = json.asFloat (doc.member "setpoint")
  | _ => True

/-- The handler is in place, for the topic of this device. -/
structure Ready (deviceId : String) (s : Board) : Prop where
  topic : s.topicCmd = cmdTopic deviceId
  handler : s.cmdHandler = true

theorem setpoint_update (p : Tuning) (s : PeltierController) (now : Nat) (pv : ℚ) :
    (s.update p now pv).setpoint = s.setpoint := by
  unfold PeltierController.update
  split
  · rfl
  · rfl

theorem ready_handleMessage (deviceId topic : String) (payload : List Nat) (s : Board)
    (h : Ready deviceId s) : Ready deviceId (handleMessage json topic payload s) := by
  unfold handleMessage
  split
  · exact h
  · split
    · exact h
    · split
      · exact h
      · exact ⟨h.topic, h.handler⟩

theorem ready_step (deviceId : String) (s t : Board) (a : Action) (h : Ready deviceId s)
    (hstep : step json deviceId s a = some t) : Ready deviceId t := by
  cases a with
  | message topic payload =>
      rw [step, Option.some.injEq] at hstep
      subst hstep
      have hready := ready_handleMessage json deviceId topic payload s h
      exact ⟨hready.topic, hready.handler⟩
  | mqttBegin =>
      rw [step, Option.some.injEq] at hstep
      subst hstep
      exact ⟨rfl, h.handler⟩
  | onCommand =>
      rw [step, Option.some.injEq] at hstep
      subst hstep
      exact ⟨h.topic, rfl⟩
  | update now pv =>
      rw [step, Option.some.injEq] at hstep
      subst hstep
      exact ⟨h.topic, h.handler⟩

/-- What a member that is not there says of the two tests. -/
theorem isNumber_of_not_containsKey (doc : JsonVariant ν) (key : String)
    (h : doc.containsKey key = false) : (doc.member key).isNumber = false := by
  cases doc with
  | object members =>
      have hnone : members.find? (fun m => m.1 = Utf8.encode key) = none := by
        refine List.find?_eq_none.mpr (fun m hm hkey => ?_)
        have hany : members.any (fun m => m.1 = Utf8.encode key) = true :=
          List.any_eq_true.mpr ⟨m, hm, hkey⟩
        rw [JsonVariant.containsKey, hany] at h
        cases h
      simp only [JsonVariant.member, hnone, JsonVariant.isNumber]
  | _ => rfl

/-- The setpoint behind one message. -/
theorem setpoint_message (deviceId topic : String) (payload : List Nat) (s : Board)
    (h : Ready deviceId s) : (handleMessage json topic payload s).peltier.setpoint =
      if topic = cmdTopic deviceId then
        match json.deserializeJson payload with
        | some doc =>
          if doc.containsKey "setpoint" then json.asFloat (doc.member "setpoint")
          else s.peltier.setpoint
        | none => s.peltier.setpoint
      else s.peltier.setpoint := by
  have hhandler : ¬ (!s.cmdHandler) = true := by
    rw [h.handler]
    decide
  rw [handleMessage, if_neg hhandler, h.topic]
  by_cases htopic : topic = cmdTopic deviceId
  · rw [if_neg (not_not.mpr htopic), if_pos htopic]
    cases json.deserializeJson payload with
    | none => rfl
    | some doc =>
        dsimp only
        rw [handleCommand]
        split
        · rfl
        · rfl
  · rw [if_pos htopic, if_neg htopic]

/-- One message leaves the setpoint as wanted unless it has a setpoint that is
    not a number and makes a difference. -/
theorem obeys_message (hreads : ReadsNumbers json) (deviceId topic : String)
    (payload : List Nat) (s : Board) (h : Ready deviceId s) (hobeys : Obeys s) :
    (handleMessage json topic payload s).peltier.setpoint =
        (requested json deviceId topic payload).getD s.wanted ↔
      Harmless json deviceId s (.message topic payload) := by
  rw [setpoint_message json deviceId topic payload s h, requested, Harmless]
  by_cases htopic : topic = cmdTopic deviceId
  · simp only [htopic, true_implies]
    cases json.deserializeJson payload with
    | none => exact iff_of_true hobeys (fun doc hdoc => by cases hdoc)
    | some doc =>
        simp only [Option.some.injEq, forall_eq']
        cases hkey : doc.containsKey "setpoint" with
        | false =>
            have hnumber := JsonVariant.numberOf_of_not_isNumber _
              (isNumber_of_not_containsKey doc "setpoint" hkey)
            simp only [hnumber, Bool.false_eq_true, if_false, false_implies, iff_true]
            exact hobeys
        | true =>
            cases hnumber : (doc.member "setpoint").isNumber with
            | true =>
                -- What is read of a number is that number.
                rcases JsonVariant.eq_number _ hnumber with ⟨n, hn⟩
                simp only [hn, JsonVariant.numberOf, hreads n, if_true, Option.map_some,
                  Option.getD_some, Bool.true_eq_false, false_implies, implies_true]
            | false =>
                simp only [JsonVariant.numberOf_of_not_isNumber _ hnumber, if_true,
                  Option.map_none, Option.getD_none, true_implies]
                exact ⟨fun heq => hobeys.trans heq.symm, fun heq => heq.symm.trans hobeys⟩
  · simp only [htopic, false_implies, iff_true]
    exact hobeys

theorem obeys_step (hreads : ReadsNumbers json) (deviceId : String) (s t : Board) (a : Action)
    (h : Ready deviceId s) (hobeys : Obeys s) (hstep : step json deviceId s a = some t) :
    Obeys t ↔ Harmless json deviceId s a := by
  cases a with
  | message topic payload =>
      rw [step, Option.some.injEq] at hstep
      subst hstep
      exact obeys_message json hreads deviceId topic payload s h hobeys
  | mqttBegin =>
      rw [step, Option.some.injEq] at hstep
      subst hstep
      exact iff_of_true hobeys trivial
  | onCommand =>
      rw [step, Option.some.injEq] at hstep
      subst hstep
      exact iff_of_true hobeys trivial
  | update now pv =>
      rw [step, Option.some.injEq] at hstep
      subst hstep
      exact iff_of_true ((setpoint_update pidTuning s.peltier now pv).trans hobeys) trivial

/-- Over any run behind `setup()`, the setpoint is the last number that a
    well-formed command has asked for, exactly if every setpoint that is not a
    number comes when it changes nothing. -/
theorem obeys_iff_harmless (hreads : ReadsNumbers json) (deviceId : String)
    (peltier : PeltierController) (acts : List Action) (t : Board)
    (hrun : run (step json deviceId) (initial deviceId peltier) acts = some t) :
    Throughout (step json deviceId) Obeys (initial deviceId peltier) acts ↔
      Along (step json deviceId) (Harmless json deviceId) (initial deviceId peltier) acts :=
  throughout_iff_along_of_invariant (step json deviceId) (Harmless json deviceId)
    (Ready deviceId) Obeys (fun s a t h hstep => ready_step json deviceId s t a h hstep)
    (fun s a t h hobeys hstep => obeys_step json hreads deviceId s t a h hobeys hstep) acts
    (initial deviceId peltier) t ⟨rfl, rfl⟩ rfl hrun

end Messages

/-- The two payloads of the examples, and the conversion of a value that is no
    number to zero. -/
def demoJson : ArduinoJson ℚ where
  deserializeJson payload :=
    if payload = Utf8.encode "\x7b\"setpoint\":null\x7d" then
      some (.object [(Utf8.encode "setpoint", .null)])
    else if payload = Utf8.encode "\x7b\"setpoint\":8\x7d" then
      some (.object [(Utf8.encode "setpoint", .number 8)])
    else none
  valueOf n := n
  asFloat
    | .number n => n
    | _ => 0

theorem obeys_iff_harmless_number : Throughout (step demoJson "vena-a4cf12e05d38") Obeys
    (initial "vena-a4cf12e05d38" {})
      [.message "vena/vena-a4cf12e05d38/cmd" (Utf8.encode "\x7b\"setpoint\":8\x7d"),
        .message "vena/vena-a4cf12e05d38/cmd" (Utf8.encode "\x7b\"setpoint\"")] := by
  refine (obeys_iff_harmless demoJson (fun _ => rfl) "vena-a4cf12e05d38" {} _ _ rfl).mpr
    ⟨?_, ?_, trivial⟩
  · intro _ doc hdoc _ hnumber
    cases hdoc
    cases hnumber
  · intro _ doc hdoc _ _
    cases hdoc

/-- A null setpoint is taken for zero. -/
theorem null_setpoint : ∃ t, run (step demoJson "vena-a4cf12e05d38")
      (initial "vena-a4cf12e05d38" {})
      [.message "vena/vena-a4cf12e05d38/cmd" (Utf8.encode "\x7b\"setpoint\":null\x7d")] =
        some t ∧
    t.peltier.setpoint = 0 ∧ t.wanted = 13 ∧ ¬ Obeys t :=
  ⟨_, rfl, by decide +kernel⟩

end CommandHandler

end Firmware

end Vena
