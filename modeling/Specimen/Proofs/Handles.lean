import Specimen.Proofs.LastWrite
import Specimen.Proofs.Slices

/-!
# Handles

The streams of a session go by names. A command changes the stream that it calls, or puts one in
place, and no other one. So a stream delivers what lies behind it, slice after slice, whatever is
done with the others, even if they read the same file.

* `Session.deliveries`: what the reads of a run have asked a stream for, and what it gave.
* `Session.StandsAt`: where a stream stands; `Session.next_standsAt`, `Session.after_standsAt`: one
  command, and a run of them.
* `Session.streams_deliver`: what the streams of a provider deliver.
-/

namespace Specimen

/-- The call that reads from a stream. -/
abbrev Command.readCall (h : String) (args : List Value) : Command :=
  .callStream h StreamCall.read.name args

/-- The call that asks a stream where it stands. -/
abbrev Command.tellCall (h : String) : Command :=
  .callStream h StreamCall.tell.name []

/-- A command that at most reads from a stream, or asks where it stands. It may be anything that
does not go to the stream, and puts no other one in its place. -/
inductive Command.OnlyReads (h : String) : Command → Prop
  | read {args : List Value} {n : Option Nat} (ha : Stream.amount? args = some n) :
    OnlyReads h (.readCall h args)
  | tell : OnlyReads h (.tellCall h)
  | other {c : Command} (hc : c.stream? ≠ some h) : OnlyReads h c

/-- The file to which the path of a provider leads when it is opened for reading. -/
def Provider.companionFile (p : Provider) (d : Disk) : Except Fault (Option Nat) := do
  let path ← p.certificatePath.mapError .call
  (d.openFile path).mapError .disk

namespace Provider

variable {p : Provider} {path : Path}

theorem companionFile_of_path (h : p.certificatePath = .ok path) (d : Disk) :
    p.companionFile d = (d.openFile path).mapError .disk := by
  rw [companionFile, h]
  rfl

/-- Opening the companion file gives a stream over the file. -/
theorem openCompanion_on_fst (p : Provider) (w : World) :
    (p.openCompanion.on w).1 = (p.companionFile w.disk).map Stream.ofFile := by
  cases hpath : p.certificatePath with
  | error flaw => simp [openCompanion, companionFile, hpath, Run.on_bind, -bind_pure_comp]; rfl
  | ok path =>
    rw [companionFile_of_path hpath]
    cases hopen : w.disk.openFile path <;>
      simp [openCompanion, Companion.openFile, hpath, hopen, Run.on_bind, Except.mapError,
        Except.map, -bind_pure_comp]

end Provider

/-- What a read asked for, and the octets that it gave. -/
structure Delivery where
  asked : Option Nat
  given : Octets
  deriving DecidableEq

namespace Session

variable {s : Session} {c : Command} {cs : List Command} {h : String} {backing : Backing}
  {bs : Octets} {d : Nat}

/-! ## Deliveries -/

/-- What a command reads from a stream, if it is a read of it and is answered. -/
def delivery? (h : String) (s : Session) (c : Command) : Option Delivery :=
  match c with
  | .callStream stream call args =>
    if stream = h ∧ call = StreamCall.read.name then
      match Stream.amount? args, (s.step c).1 with
      | some n, .ok (.octets bs) => some ⟨n, bs⟩
      | _, _ => none
    else none
  | _ => none

/-- What a run of commands reads from a stream. -/
def deliveries (h : String) (s : Session) : List Command → List Delivery
  | [] => []
  | c :: cs => (s.delivery? h c).toList ++ (s.next c).deliveries h cs

/-- The octets of deliveries one after another. -/
def delivered (ds : List Delivery) : Octets :=
  (ds.map (·.given)).flatten

theorem delivery?_of_ok {args : List Value} {n : Option Nat} (ha : Stream.amount? args = some n)
    (hr : (s.step (.readCall h args)).1 = .ok (.octets bs)) :
    s.delivery? h (.readCall h args) = some ⟨n, bs⟩ := by
  simp [delivery?, ha, hr]

theorem delivery?_of_error {args : List Value} {e : Fault}
    (hr : (s.step (.readCall h args)).1 = .error e) :
    s.delivery? h (.readCall h args) = none := by
  simp [delivery?, hr]

theorem delivery?_tellCall : s.delivery? h (.tellCall h) = none := by
  have hne : StreamCall.tell.name ≠ StreamCall.read.name := by decide
  simp [delivery?, hne]

theorem delivery?_of_ne (hc : c.stream? ≠ some h) : s.delivery? h c = none := by
  cases c <;> simp_all [delivery?, Command.stream?]

/-! ## Where a stream stands -/

/-- The stream under a name is open, and has handed out the first `d` octets. -/
def StandsAt (s : Session) (h : String) (backing : Backing) (bs : Octets) (d : Nat) : Prop :=
  ∃ stream, s.streams.lookup h = some stream ∧ Stream.Stands bs d backing stream

theorem step_tellCall (hs : s.StandsAt h backing bs d) :
    (s.step (.tellCall h)).1 = .ok (.count d) ∧ (s.next (.tellCall h)).StandsAt h backing bs d := by
  obtain ⟨stream, hlookup, hstands⟩ := hs
  have hlookup : s.silent.streams.lookup h = some stream := hlookup
  rw [step_fst, next_eq, Act.run_callStream hlookup, hstands.tell _]
  exact ⟨rfl, _, Register.lookup_put _ _ _, hstands⟩

/-- A read gives the next slice, or is refused because it asks for too much. -/
theorem step_readCall (hs : s.StandsAt h backing bs d)
    (hb : backing.Holds s.world.disk.contentOf bs) {args : List Value} {n : Option Nat}
    (ha : Stream.amount? args = some n) :
    ((s.step (.readCall h args)).1 = .ok (.octets (bs.slice d n)) ∧
      (s.next (.readCall h args)).StandsAt h backing bs (d + (bs.slice d n).length)) ∨
    ¬ backing.Grants s.limits n ∧ ∃ flaw, flaw.isExcess = true ∧
      (s.step (.readCall h args)).1 = .error (.stream flaw) ∧
      (s.next (.readCall h args)).StandsAt h backing bs d := by
  obtain ⟨stream, hlookup, hstands⟩ := hs
  have hlookup' : s.silent.streams.lookup h = some stream := hlookup
  have hb : backing.Holds s.silent.world.disk.contentOf bs := hb
  rw [step_fst, next_eq, Act.run_callStream hlookup']
  rcases hstands.read hb ha with ⟨after, hcall, hafter⟩ | ⟨hgrants, flaw, hflaw, hcall⟩ <;>
    rw [hcall]
  · exact .inl ⟨rfl, after, Register.lookup_put _ _ _, hafter⟩
  · exact .inr ⟨hgrants, flaw, hflaw, rfl, stream, hlookup, hstands⟩

/-- A command delivers the next slice or nothing, and the stream stands behind what it delivers. -/
theorem next_standsAt (hs : s.StandsAt h backing bs d) (hc : c.OnlyReads h)
    (hb : backing.Holds s.world.disk.contentOf bs) :
    (s.delivery? h c = none ∧ (s.next c).StandsAt h backing bs d) ∨
    ∃ n, s.delivery? h c = some ⟨n, bs.slice d n⟩ ∧
      (s.next c).StandsAt h backing bs (d + (bs.slice d n).length) := by
  cases hc with
  | @read args n ha =>
    rcases step_readCall hs hb ha with ⟨hstep, hnext⟩ | ⟨-, flaw, -, hstep, hnext⟩
    · exact .inr ⟨n, delivery?_of_ok ha hstep, hnext⟩
    · exact .inl ⟨delivery?_of_error hstep, hnext⟩
  | tell => exact .inl ⟨delivery?_tellCall, (step_tellCall hs).2⟩
  | other hc =>
    obtain ⟨stream, hlookup, hstands⟩ := hs
    exact .inl ⟨delivery?_of_ne hc, stream, (lookup_next hc).trans hlookup, hstands⟩

/-- A run delivers slices one after another, and the stream stands behind the last one. -/
theorem after_standsAt (hs : s.StandsAt h backing bs d) (hcs : ∀ c ∈ cs, c.OnlyReads h)
    (hb : ∀ pre, pre <+: cs → backing.Holds (s.after pre).world.disk.contentOf bs) :
    (s.deliveries h cs).map (·.given) = bs.slices d ((s.deliveries h cs).map (·.asked)) ∧
    (s.after cs).StandsAt h backing bs (d + (delivered (s.deliveries h cs)).length) := by
  induction cs generalizing s d with
  | nil => exact ⟨rfl, hs⟩
  | cons c cs ih =>
    have hcs' : ∀ c' ∈ cs, c'.OnlyReads h := fun c' hc' => hcs c' (by simp [hc'])
    have hb' : ∀ pre, pre <+: cs → backing.Holds ((s.next c).after pre).world.disk.contentOf bs :=
      fun pre hpre => hb (c :: pre) (List.cons_prefix_cons.2 ⟨rfl, hpre⟩)
    rw [deliveries, after]
    rcases next_standsAt hs (hcs c (by simp)) (hb [] (List.nil_prefix)) with
      ⟨hd, hnext⟩ | ⟨n, hd, hnext⟩
    · rw [hd, Option.toList_none, List.nil_append]
      exact ih hnext hcs' hb'
    · obtain ⟨hslices, hstands⟩ := ih hnext hcs' hb'
      rw [hd, Option.toList_some, List.singleton_append]
      refine ⟨?_, ?_⟩
      · rw [List.map_cons, List.map_cons, Octets.slices, hslices]
      · rw [delivered, List.map_cons, List.flatten_cons, List.length_append, ← Nat.add_assoc]
        exact hstands

/-! ## What streams deliver -/

/-- Reads of a stream have delivered octets `bs` from the first one on, and go on to do so. -/
structure Delivers (s : Session) (limits : Stream.Limits) (h : String) (backing : Backing)
    (bs : Octets) (ds : List Delivery) : Prop where
  /-- The deliveries are consecutive slices, each as long as was asked for. -/
  slices : ds.map (·.given) = bs.slices 0 (ds.map (·.asked))
  /-- Together they are the first octets, as many as was asked for in all. -/
  whole : delivered ds = bs.slice 0 (Octets.total (ds.map (·.asked)))
  /-- Once as much was asked for as there is, they are all. -/
  exhausted : (∀ n, Octets.total (ds.map (·.asked)) = some n → bs.length ≤ n) → delivered ds = bs
  /-- The stream stands behind them. -/
  tell : (s.step (.tellCall h)).1 = .ok (.count (delivered ds).length)
  /-- The next read gives the next slice, unless it asks for too much to be granted. -/
  read : ∀ args n, Stream.amount? args = some n →
    (s.step (.readCall h args)).1 = .ok (.octets (bs.slice (delivered ds).length n)) ∨
    ¬ backing.Grants limits n ∧ ∃ flaw, flaw.isExcess = true ∧
      (s.step (.readCall h args)).1 = .error (.stream flaw)

theorem delivers_after (hs : s.StandsAt h backing bs 0) (hcs : ∀ c ∈ cs, c.OnlyReads h)
    (hb : ∀ pre, pre <+: cs → backing.Holds (s.after pre).world.disk.contentOf bs) :
    (s.after cs).Delivers s.limits h backing bs (s.deliveries h cs) := by
  obtain ⟨hslices, hstands⟩ := after_standsAt hs hcs hb
  rw [Nat.zero_add] at hstands
  have hwhole : delivered (s.deliveries h cs) =
      bs.slice 0 (Octets.total ((s.deliveries h cs).map (·.asked))) := by
    rw [delivered, hslices, Octets.flatten_slices]
  refine ⟨hslices, hwhole, fun hall => ?_, (step_tellCall hstands).1, fun args n ha => ?_⟩
  · rw [hwhole, Octets.slice_of_length_le bs hall]
  · rcases step_readCall hstands (hb cs (List.prefix_refl _)) ha with
      ⟨hstep, -⟩ | ⟨hgrants, flaw, hflaw, hstep, -⟩
    · exact .inl hstep
    · rw [limits_after] at hgrants
      exact .inr ⟨hgrants, flaw, hflaw, hstep⟩

/-! ### Streams of a provider -/

variable {p : Provider} {name : String}

theorem step_bytes (hp : s.providers.lookup name = some p) (parts : Value) (stream : String) :
    (s.step (.call name Provider.Method.bytes.name [parts] stream)).1 =
      ((Hex.decodeParts parts).mapError Fault.hex).map .octets := by
  rw [step_fst, Act.run_partsCall (s := s.silent) hp rfl]
  simp only [Act.answer, run_bind, Act.run_ofExcept]
  cases Hex.decodeParts parts <;> rfl

/-- Pieces that can be decoded give a stream over their octets. -/
theorem step_bytesToIo (hp : s.providers.lookup name = some p) (parts : Value) (h : String) :
    let io := Command.call name Provider.Method.bytesToIo.name [parts] h
    match Hex.decodeParts parts with
    | .error flaw => (s.step io).1 = .error (.hex flaw) ∧ (s.next io).streams = s.streams
    | .ok bs => (s.step io).1 = .ok (.stream h) ∧ (s.next io).StandsAt h .memory bs 0 := by
  intro io
  rw [step_fst, next_eq, Act.run_partsCall (s := s.silent) hp rfl]
  simp only [Act.answer, Provider.streamOf, run_bind, Act.run_ofExcept]
  cases Hex.decodeParts parts with
  | error flaw => exact ⟨rfl, rfl⟩
  | ok bs => exact ⟨rfl, _, Register.lookup_put _ _ _, Stream.stands_ofOctets bs⟩

/-- A companion file that can be opened gives a stream over the file. -/
theorem step_certificateIo_cases (hp : s.providers.lookup name = some p) (h : String) :
    let io := Command.ask name .certificateIo h
    match p.companionFile s.world.disk with
    | .error e => (s.step io).1 = .error e ∧ (s.next io).streams = s.streams
    | .ok file => (s.step io).1 = .ok (.stream h) ∧
        ∀ bs, (s.next io).StandsAt h (.file file) bs 0 := by
  intro io
  rw [step_fst, next_eq, Act.run_plainCall (s := s.silent) hp rfl]
  simp only [Act.answer, run_bind, Act.run_ofRun]
  have hopen := p.openCompanion_on_fst s.silent.world
  generalize p.openCompanion.on s.silent.world = r at hopen ⊢
  obtain ⟨x, w⟩ := r
  obtain rfl : x = (p.companionFile s.world.disk).map Stream.ofFile := hopen
  cases p.companionFile s.world.disk with
  | error e => exact ⟨rfl, rfl⟩
  | ok file =>
    exact ⟨rfl, fun bs => ⟨_, Register.lookup_put _ _ _, Stream.stands_ofFile file bs⟩⟩

/-- **Streams deliver what lies behind them.** A provider makes a stream of the pieces that it can
decode, and of no others. Whatever is done in the session then, as long as the stream itself is only
read, it gives the octets slice after slice, and refuses only reads that ask for more than can be
granted. A stream over the companion file does so with what is in the file, as long as that stays as
it is. No command changes a stream other than the one that it calls or puts in place, even if they
read the same file. -/
theorem streams_deliver (hp : s.providers.lookup name = some p) (h : String) :
    (∀ parts other,
      let io := Command.call name Provider.Method.bytesToIo.name [parts] h
      match (s.step (.call name Provider.Method.bytes.name [parts] other)).1 with
      | .error e => (s.step io).1 = .error e ∧ (s.next io).streams = s.streams
      | .ok reply => ∃ bs, reply = .octets bs ∧ (s.step io).1 = .ok (.stream h) ∧
          ∀ cs, (∀ c ∈ cs, c.OnlyReads h) →
            ((s.next io).after cs).Delivers s.limits h .memory bs
              ((s.next io).deliveries h cs)) ∧
    (let io := Command.ask name .certificateIo h
     match p.companionFile s.world.disk with
      | .error e => (s.step io).1 = .error e ∧ (s.next io).streams = s.streams
      | .ok file => (s.step io).1 = .ok (.stream h) ∧
          ∀ cs, (∀ c ∈ cs, c.OnlyReads h) →
            (∀ pre, pre <+: cs → ((s.next io).after pre).world.disk.contentOf file =
              s.world.disk.contentOf file) →
            ((s.next io).after cs).Delivers s.limits h (.file file)
              (s.world.disk.contentOf file) ((s.next io).deliveries h cs)) ∧
    ∀ cs, (∀ c ∈ cs, c.stream? ≠ some h) →
      (s.after cs).streams.lookup h = s.streams.lookup h := by
  refine ⟨fun parts other => ?_, ?_, fun cs hcs => lookup_after hcs⟩
  · intro io
    have hio := step_bytesToIo hp parts h
    rw [step_bytes hp]
    cases hdecode : Hex.decodeParts parts with
    | error flaw =>
      rw [hdecode] at hio
      exact hio
    | ok bs =>
      rw [hdecode] at hio
      refine ⟨bs, rfl, hio.1, fun cs hcs => ?_⟩
      rw [← limits_next s io]
      exact delivers_after hio.2 hcs fun _ _ => trivial
  · intro io
    have hio := step_certificateIo_cases hp h
    cases hfile : p.companionFile s.world.disk with
    | error e =>
      rw [hfile] at hio
      exact hio
    | ok file =>
      rw [hfile] at hio
      refine ⟨hio.1, fun cs hcs hfile => ?_⟩
      rw [← limits_next s io]
      exact delivers_after (hio.2 _) hcs hfile

/-- A provider with its companion file. -/
def handleSample : Session where
  world :=
    { disk :=
        { home := [], entries := [(["certificate.cer"], .file 0)], contents := [[1, 2, 3, 4]] }
      settingsFile := ⟨.here, [".env"]⟩
      resourceFolder := ⟨.here, []⟩
      ascents := 9 }
  limits := limitsSample
  providers := [("p", octetProvider 0 "certificate.cer" 1)]

/-- Pieces that are cut within an octet. -/
def pieceSample : Value := .list [.text "0a0", .text "b0c"]

theorem decode_pieceSample : Hex.decodeParts pieceSample = .ok [10, 11, 12] := by
  decide +kernel

/-- Reads of a stream, with another one opened over the companion file, read, moved and closed in
between. -/
def handleRun : List Command :=
  [.readCall "h" [.int 1], .ask "p" .certificateIo "other", .readCall "other" [.int 3],
    .readCall "h" [.int 0], .callStream "other" StreamCall.seek.name [.int 1],
    .readCall "h" [.int 2], .callStream "other" StreamCall.close.name [], .tellCall "h"]

theorem onlyReads_handleRun : ∀ c ∈ handleRun, c.OnlyReads "h" := by
  simp only [handleRun, List.forall_mem_cons]
  exact ⟨.read rfl, .other (by decide), .other (by decide), .read rfl, .other (by decide),
    .read rfl, .other (by decide), .tell, by simp⟩

theorem no_write_handleRun : ∀ c ∈ handleRun, c.isDirect = false ∧ c.isWrite = false := by
  simp only [handleRun, List.forall_mem_cons]
  decide +kernel

theorem deliveries_pieceSample :
    (handleSample.next (.call "p" Provider.Method.bytesToIo.name [pieceSample] "h")).deliveries
      "h" handleRun = [⟨some 1, [10]⟩, ⟨some 0, []⟩, ⟨some 2, [11, 12]⟩] := by
  decide +kernel

theorem deliveries_handleSample :
    (handleSample.next (.ask "p" .certificateIo "h")).deliveries "h" handleRun =
      [⟨some 1, [1]⟩, ⟨some 0, []⟩, ⟨some 2, [2, 3]⟩] := by
  decide +kernel

theorem streams_deliver_sample :
    ((handleSample.next (.call "p" Provider.Method.bytesToIo.name [pieceSample] "h")).after
      handleRun).Delivers limitsSample "h" .memory [10, 11, 12]
        [⟨some 1, [10]⟩, ⟨some 0, []⟩, ⟨some 2, [11, 12]⟩] ∧
    ((handleSample.next (.ask "p" .certificateIo "h")).after handleRun).Delivers limitsSample "h"
      (.file (some 0)) [1, 2, 3, 4] [⟨some 1, [1]⟩, ⟨some 0, []⟩, ⟨some 2, [2, 3]⟩] := by
  have hp : handleSample.providers.lookup "p" = some (octetProvider 0 "certificate.cer" 1) := rfl
  obtain ⟨hbytes, hfile, -⟩ := streams_deliver hp "h"
  constructor
  · have hbytes := hbytes pieceSample "h"
    rw [step_bytes hp, decode_pieceSample] at hbytes
    obtain ⟨bs, hbs, -, hdelivers⟩ := hbytes
    obtain rfl := Reply.octets.inj hbs
    have hdelivers := hdelivers handleRun onlyReads_handleRun
    rw [deliveries_pieceSample] at hdelivers
    exact hdelivers
  · have hopen : (octetProvider 0 "certificate.cer" 1).companionFile handleSample.world.disk =
        .ok (some 0) := by
      have hf : (octetProvider 0 "certificate.cer" 1).file? handleSample.world.disk = some 0 := by
        decide +kernel
      obtain ⟨path, hpath, ho⟩ := Provider.file?_eq_some_iff.1 hf
      rw [Provider.companionFile_of_path hpath, ho]
      rfl
    rw [hopen] at hfile
    have hdelivers := hfile.2 handleRun onlyReads_handleRun fun pre hpre => by
      rw [disk_after fun c hc => no_write_handleRun c (hpre.subset hc), disk_next rfl rfl]
    rw [deliveries_handleSample] at hdelivers
    exact hdelivers

/-- A number that does not fit where lengths are kept is refused, however few octets are left. -/
theorem oversized_read_refused :
    let io := Command.call "p" Provider.Method.bytesToIo.name [pieceSample] "h"
    (handleSample.step (.call "p" Provider.Method.bytes.name [pieceSample] "h")).1 =
      .ok (.octets [10, 11, 12]) ∧
    (handleSample.step io).1 = .ok (.stream "h") ∧
    ((handleSample.next io).step (.readCall "h" [.int 9223372036854775808])).1 =
      .error (.stream (.tooLarge "cannot fit 'int' into an index-sized integer" false)) := by
  have hp : handleSample.providers.lookup "p" = some (octetProvider 0 "certificate.cer" 1) := rfl
  have hio := step_bytesToIo hp pieceSample "h"
  rw [decode_pieceSample] at hio
  obtain ⟨hmade, stream, hlookup, ⟨⟩⟩ := hio
  refine ⟨by rw [step_bytes hp, decode_pieceSample]; rfl, hmade, ?_⟩
  rw [step_fst, Act.run_callStream (s := silent _) hlookup, Stream.call_read_memory rfl]
  rfl

end Session

end Specimen
