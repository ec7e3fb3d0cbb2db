import DevnetChaos.Proofs.Document.Decoders
import DevnetChaos.Schema.Network

/-!
# Documents of networks that are written and read

What is written of a network is read as the same network: fields that are left out have the value
that the reader starts with.  The count of a group is the only number that is not a machine word by
its type, and has to be one.

Main results:

- `Record.Fills.text`, `word32`, `word64`, `labels`, `flag`: entries that may be left out.
- `Participant.reads_toTree`, `GenesisParams.reads_toTree`, `NetworkConfig.reads_toTree`: what is
  written is read.
-/

namespace DevnetChaos

open Decoder Record

/-! ## Clients -/

/-- The name of a client is read back as the client. -/
theorem ExecutionKind.reads_toTree (k : ExecutionKind) : ExecutionKind.decode.Reads k.toTree k :=
  reads_word (by decide) (by cases k <;> decide)

theorem ConsensusKind.reads_toTree (k : ConsensusKind) : ConsensusKind.decode.Reads k.toTree k :=
  reads_word (by decide) (by cases k <;> decide)

theorem Labels.reads_toTree (labels : Labels) : Labels.decode.Reads labels.toTree labels :=
  reads_textMap fun e _ => reads_text e.2

/-! ## Entries that may be left out -/

namespace Record.Fills

variable {ρ : Type} {fields : List (Field ρ)} {r last : ρ} {es : List (String × Tree)}

/-- A text that may be missing is left out of the entries when it is. -/
theorem text {name : String} {set : ρ → Option String → ρ} {value : Option String}
    (hnone : set r none = r) (later : Fills fields (set r value) es last) :
    Fills (.optional name .text set :: fields) r (textEntry name value ++ es) last :=
  optional (fun s _ => reads_text s) (fun _ => Tree.noConfusion) hnone later

theorem word32 {name : String} {set : ρ → Option UInt32 → ρ} {value : Option UInt32}
    (hnone : set r none = r) (later : Fills fields (set r value) es last) :
    Fills (.optional name .word32 set :: fields) r (word32Entry name value ++ es) last :=
  optional (fun n _ => reads_word32 n) (fun _ => Tree.noConfusion) hnone later

theorem word64 {name : String} {set : ρ → Option UInt64 → ρ} {value : Option UInt64}
    (hnone : set r none = r) (later : Fills fields (set r value) es last) :
    Fills (.optional name .word64 set :: fields) r (word64Entry name value ++ es) last :=
  optional (fun n _ => reads_word64 n) (fun _ => Tree.noConfusion) hnone later

/-- Labels, which are left out when there are none. -/
theorem labels {name : String} {set : ρ → Labels → ρ} {labels : Labels}
    (hempty : set r .empty = r) (later : Fills fields (set r labels) es last) :
    Fills (.withDefault name Labels.decode set :: fields) r (labels.entry name ++ es) last := by
  refine entryUnless (Labels.reads_toTree labels) (fun hskip => ?_) later
  obtain ⟨entries, sorted⟩ := labels
  cases List.isEmpty_iff.1 hskip
  exact hempty

/-- A truth value, which is left out when it is not set. -/
theorem flag {name : String} {set : ρ → Bool → ρ} {b : Bool} (hoff : set r false = r)
    (later : Fills fields (set r b) es last) :
    Fills (.withDefault name .bool set :: fields) r
      (Tree.entryUnless (!b) name (.bool b) ++ es) last := by
  refine entryUnless (reads_bool b) (fun hskip => ?_) later
  cases b with
  | false => exact hoff
  | true => cases hskip

end Record.Fills

/-! ## Networks -/

/-- A group of nodes is read from what is written of it. -/
theorem Participant.reads_toTree {p : Participant} (h : p.count < wordCount) :
    Participant.decode.Reads p.toTree p := by
  rw [toTree]
  simp only [List.append_assoc, List.cons_append, List.nil_append]
  refine reads_record ?_ (by decide)
  exact .required p.execution.reads_toTree <|
    .text rfl <| .labels rfl <| .word32 rfl <| .word32 rfl <|
    .required p.consensus.reads_toTree <|
    .text rfl <| .labels rfl <| .word32 rfl <| .word32 rfl <|
    .flag rfl <| .optional (fun k _ => k.reads_toTree) (fun _ => Tree.noConfusion) rfl <|
    .text rfl <| .labels rfl <| .word32 rfl <| .word32 rfl <|
    .withDefault (reads_index h) .done

/-- Parameters of the chain are read from what is written of them. -/
theorem GenesisParams.reads_toTree (p : GenesisParams) :
    GenesisParams.decode.Reads p.toTree p := by
  rw [toTree]
  simp only [List.append_assoc]
  refine reads_record ?_ (by decide)
  exact .text rfl <| .word64 rfl <| .word64 rfl <| .text rfl <| .word64 rfl <| .word64 rfl <|
    .word64 rfl <| .word64 rfl <| .word64 rfl <| .word64 rfl <| .word64 rfl <| .word64 rfl <|
    .withDefault (reads_word32 _) .done

/-- A network is read from what is written of it. -/
theorem NetworkConfig.reads_toTree {n : NetworkConfig}
    (h : ∀ p ∈ n.participants, p.count < wordCount) : NetworkConfig.decode.Reads n.toTree n := by
  refine reads_record ?_ (by decide)
  exact .required (reads_list fun p hp => Participant.reads_toTree (h p hp)) <|
    .withDefault n.params.reads_toTree <| .withDefault (reads_texts _) <|
    .withDefault (reads_bool _) <| .withDefault (reads_bool _) <|
    .withDefault (reads_bool _) .done

end DevnetChaos
