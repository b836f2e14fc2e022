import SearchIndex.CommandLine.Run

/-!
# Requests of a command

What a command sends is told by a network that keeps a record (`recorded`). The record changes nothing
else (`carryOut_recorded`).
-/

namespace SearchIndex.Service

variable {σ α : Type}

/-- The network with a record of the requests sent over it, the last one at the end. -/
def recorded (network : σ → Request → Exchange × σ) :
    σ × List Request → Request → Exchange × (σ × List Request)
  | (s, sent), r => ((network s r).1, (network s r).2, sent ++ [r])

/-- A plan goes the same way whether a record is kept or not. -/
theorem run_recorded (network : σ → Request → Exchange × σ) (client : Client)
    (p : Engine.Plan α) (s : σ) (sent : List Request) :
    (p.run (Client.answer (recorded network) client) (s, sent)).1 =
        (p.run (Client.answer network client) s).1 ∧
      (p.run (Client.answer (recorded network) client) (s, sent)).2.1 =
        (p.run (Client.answer network client) s).2 := by
  induction p generalizing s sent with
  | done a => exact ⟨rfl, rfl⟩
  | call c next ih =>
    simp only [Engine.Plan.run, Client.answer]
    cases client.request c with
    | error e => exact ih _ s sent
    | ok r => exact ih _ (network s r).2 (sent ++ [r])

/-- The request of a call to an index, at an address that requests go to. -/
theorem Client.request_of_target {client : Client} {c : Engine.Call} {url : String}
    (hname : isIndexName c.index = true) (hurl : Client.target (client.address c) = .ok url) :
    client.request c = .ok ⟨Client.method c, client.address c, url, client.apiKey,
      Client.contentType, (Client.body? c).map Json.Value.text⟩ := by
  simp only [Client.request, hname, if_true, hurl]

end SearchIndex.Service

namespace SearchIndex.CommandLine

open Service (Client Exchange Request recorded)

variable {σ : Type}

/-- A command ends the same way whether a record is kept or not. -/
theorem carryOut_recorded (network : σ → Request → Exchange × σ) (s : σ) (sent : List Request)
    (around : Surroundings) (config : Config.AppConfig) (command : Command) :
    (carryOut (recorded network) (s, sent) around config command).1 =
      (carryOut network s around config command).1 := by
  cases command with
  | filter json file => rfl
  | service command =>
    simp only [carryOut]
    cases clientOf config with
    | error e => rfl
    | ok client => exact (Service.run_recorded network client _ s sent).1

/-- The requests that a command sends. -/
def requestsOf (network : σ → Request → Exchange × σ) (s : σ) (around : Surroundings)
    (config : Config.AppConfig) (command : Command) : List Request :=
  (carryOut (recorded network) (s, []) around config command).2.2

/-! ## A plain setting -/

/-- A configuration that says no more than a client needs. -/
def plainConfig : Config.AppConfig :=
  ⟨⟨some "http://localhost", some "key", "2024-07-01", 30⟩, {}⟩

/-- No files, and nothing in the environment. -/
def bareSurroundings : Surroundings :=
  ⟨⟨fun _ => .error .missing⟩, ⟨"/", "/"⟩, ⟨[]⟩⟩

end SearchIndex.CommandLine
