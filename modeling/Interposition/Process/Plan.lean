/-
  Plans and reports of the runs that start several processes: chains and sessions.
-/
import Interposition.Process.Launch
import Interposition.Rendezvous.Marker

namespace Interposition

/-! ## Chains -/

/-- One grate and the cage it serves. -/
structure ChainLink where
  grate : String
  cage : String
deriving DecidableEq, Inhabited

/-- The grates and cages of a chain, outermost first. -/
structure ChainPlan where
  links : List ChainLink
deriving DecidableEq, Inhabited

namespace ChainPlan

/-- Names paired up; nothing when one is left over. -/
def pairs? : List String → Option (List ChainLink)
  | [] => some []
  | [_] => none
  | grate :: cage :: rest => (pairs? rest).map (⟨grate, cage⟩ :: ·)

/-- The plan of a list of names: grate, cage, grate, cage, … -/
def ofNames (names : List String) : Except ProcessError ChainPlan :=
  match names, pairs? names with
  | _ :: _, some links => .ok ⟨links⟩
  | _, _ => .error (.unevenChain names.length)

/-- How many grates are nested. -/
def depth (plan : ChainPlan) : Nat := plan.links.length

/-- The first grate, with every name behind it as an argument. -/
def headImage? (plan : ChainPlan) : Option ImageSpec :=
  match plan.links with
  | [] => none
  | first :: rest =>
    some ⟨.ofText first.grate, first.cage :: rest.flatMap fun link => [link.grate, link.cage]⟩

end ChainPlan

/-- What one level of a chain did. -/
structure ChainReport where
  depth : UInt32
  records : List ProcessRecord
  /-- Children that could not be started at all. -/
  failures : List String
deriving DecidableEq, Inhabited

namespace ChainReport

/-- Whether every child was started and did what it should. -/
def succeeded (report : ChainReport) : Bool :=
  report.failures.isEmpty && report.records.all ProcessRecord.succeeded

/-- The status of the level: one when a child could not be started, else the status of the first
    child that failed, at least one. -/
def exitCode (report : ChainReport) : Option Int32 :=
  if !report.failures.isEmpty then some 1
  else
    match (report.records.filterMap ProcessRecord.termination).find? (!·.isSuccess) with
    | some t => t.exitCode.map (max · 1)
    | none => some 0

end ChainReport

/-! ## Sessions -/

/-- What to run in one session. -/
structure SessionConfig where
  cage : ImageSpec
  grate : ImageSpec
  /-- Also wait for an operator before the cage is released. -/
  operatorAck : Bool
deriving DecidableEq, Inhabited

/-- What happened in one session. -/
structure SessionReport where
  cage : ProcessRecord
  grate : ProcessRecord
  /-- Every state the cage passed through, in order. -/
  cageStates : List CageState
  registrations : List Registration
  outcome : Option CageOutcome
deriving DecidableEq, Inhabited

/-- The status of a session: not zero when the cage failed, or when the grate ended in another way
    than being stopped. -/
def SessionReport.exitCode (report : SessionReport) : Option Int32 :=
  let cage := report.cage.termination.getD .vanished
  if !cage.isSuccess then cage.exitCode
  else
    match report.grate.termination with
    | some t => if t.isSuccess ∨ t.signal? = some Signal.stopping then some 0 else t.exitCode
    | none => some 1

/-! ## Written forms -/

instance : Encode ChainLink where
  toJson link := .object [("grate", .text link.grate), ("cage", .text link.cage)]

/-- The fields of a link. -/
def ChainLink.fields : Fields ChainLink :=
  Fields.done ChainLink.mk |>.required "grate" |>.required "cage"

instance : Decode ChainLink := ⟨ChainLink.fields.decoder "ChainLink"⟩

instance : Encode ChainPlan where
  toJson plan := .object [("links", toJson plan.links)]

/-- The fields of a plan. -/
def ChainPlan.fields : Fields ChainPlan := Fields.done ChainPlan.mk |>.required "links"

instance : Decode ChainPlan := ⟨ChainPlan.fields.decoder "ChainPlan"⟩

instance : Encode ChainReport where
  toJson report := .object
    [ ("depth", toJson report.depth), ("records", toJson report.records),
      ("failures", toJson report.failures) ]

/-- The fields of a report. -/
def ChainReport.fields : Fields ChainReport :=
  Fields.done ChainReport.mk |>.required "depth" |>.required "records" |>.required "failures"

instance : Decode ChainReport := ⟨ChainReport.fields.decoder "ChainReport"⟩

/-- The document of a session's images, if their programs are text. -/
def SessionConfig.toJson? (config : SessionConfig) : Except Failure Json := do
  let cage ← config.cage.toJson?
  let grate ← config.grate.toJson?
  return .object [("cage", cage), ("grate", grate), ("operator_ack", .bool config.operatorAck)]

/-- The fields of a session. -/
def SessionConfig.fields : Fields SessionConfig :=
  Fields.done SessionConfig.mk |>.required "cage" |>.required "grate"
    |>.field "operator_ack" decode (.defaulted false)

instance : Decode SessionConfig := ⟨SessionConfig.fields.decoder "SessionConfig"⟩

instance : Encode SessionReport where
  toJson report := .object
    ([ ("cage", toJson report.cage), ("grate", toJson report.grate),
       ("cage_states", toJson report.cageStates),
       ("registrations", toJson report.registrations) ]
      ++ match report.outcome with
        | some outcome => [("outcome", toJson outcome)]
        | none => [])

/-- The fields of a session's report. -/
def SessionReport.fields : Fields SessionReport :=
  Fields.done SessionReport.mk |>.required "cage" |>.required "grate"
    |>.required "cage_states" |>.required "registrations"
    |>.field "outcome" (Decoder.option decode) (.optional none)

instance : Decode SessionReport := ⟨SessionReport.fields.decoder "SessionReport"⟩

end Interposition
