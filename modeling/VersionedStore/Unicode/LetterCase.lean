import VersionedStore.Unicode.CharSet

/-!
# Letter case

The simple case mappings of the Unicode standard.  A mapping is kept as runs of code points
that move by the same distance: in `41-5a+1>20` every code point from `41` to `5a`, in steps of
one, moves up by `20`; with `<` it moves down.

* `lowerOf`: the small letter of a character.
* `foldOf`: the representative of a character when letter case is ignored.
* `CharSet.closeCase`: a set with all characters that differ from one of its own in letter case
  at most.
-/

set_option autoImplicit false

namespace VersionedStore.Unicode

/-- Characters from `first` to `last`, in steps of `step`, that all move by `shift`. -/
structure CaseRun where
  first : Nat
  last : Nat
  step : Nat
  shift : Int

namespace CaseRun

/-- Takes a run apart. -/
def ofWord (word : List Char) : CaseRun :=
  let upward := word.contains '>'
  let mark := if upward then '>' else '<'
  let range := rangeOf (word.takeWhile (· != '+'))
  let step := (word.dropWhile (· != '+')).drop 1 |>.takeWhile (· != mark)
  let distance := (word.dropWhile (· != mark)).drop 1
  ⟨range.1, range.2, hexNumber step,
    if upward then (hexNumber distance : Int) else -(hexNumber distance : Int)⟩

/-- Whether the run holds a code point. -/
def holds (run : CaseRun) (code : Nat) : Bool :=
  decide (run.first ≤ code ∧ code ≤ run.last) && (code - run.first) % run.step == 0

/-- Where the run moves a code point it holds. -/
def image (run : CaseRun) (code : Nat) : Nat := ((code : Int) + run.shift).toNat

/-- All code points of the run with their images. -/
def moves (run : CaseRun) : List (Nat × Nat) :=
  (List.range ((run.last - run.first) / run.step + 1)).map fun i =>
    (run.first + i * run.step, run.image (run.first + i * run.step))

end CaseRun

/-- Takes apart lines of runs. -/
def caseRuns (lines : List String) : List CaseRun :=
  lines.flatMap fun line => (words line).map CaseRun.ofWord

/-- From capital to small letters, as of version 17.0 of the standard. -/
def lowerRuns : List CaseRun := caseRuns
  ["41-5a+1>20 c0-d6+1>20 d8-de+1>20 100-12e+2>1 132-136+2>1 139-147+2>1 14a-176+2>1",
   "178-178+1<79 179-17d+2>1 181-181+1>d2 182-184+2>1 186-186+1>ce 187-187+1>1 189-18a+1>cd",
   "18b-18b+1>1 18e-18e+1>4f 18f-18f+1>ca 190-190+1>cb 191-191+1>1 193-193+1>cd 194-194+1>cf",
   "196-196+1>d3 197-197+1>d1 198-198+1>1 19c-19c+1>d3 19d-19d+1>d5 19f-19f+1>d6 1a0-1a4+2>1",
   "1a6-1a6+1>da 1a7-1a7+1>1 1a9-1a9+1>da 1ac-1ac+1>1 1ae-1ae+1>da 1af-1af+1>1 1b1-1b2+1>d9",
   "1b3-1b5+2>1 1b7-1b7+1>db 1b8-1b8+1>1 1bc-1bc+1>1 1c4-1c4+1>2 1c5-1c5+1>1 1c7-1c7+1>2",
   "1c8-1c8+1>1 1ca-1ca+1>2 1cb-1db+2>1 1de-1ee+2>1 1f1-1f1+1>2 1f2-1f4+2>1 1f6-1f6+1<61",
   "1f7-1f7+1<38 1f8-21e+2>1 220-220+1<82 222-232+2>1 23a-23a+1>2a2b 23b-23b+1>1",
   "23d-23d+1<a3 23e-23e+1>2a28 241-241+1>1 243-243+1<c3 244-244+1>45 245-245+1>47",
   "246-24e+2>1 370-372+2>1 376-376+1>1 37f-37f+1>74 386-386+1>26 388-38a+1>25 38c-38c+1>40",
   "38e-38f+1>3f 391-3a1+1>20 3a3-3ab+1>20 3cf-3cf+1>8 3d8-3ee+2>1 3f4-3f4+1<3c 3f7-3f7+1>1",
   "3f9-3f9+1<7 3fa-3fa+1>1 3fd-3ff+1<82 400-40f+1>50 410-42f+1>20 460-480+2>1 48a-4be+2>1",
   "4c0-4c0+1>f 4c1-4cd+2>1 4d0-52e+2>1 531-556+1>30 10a0-10c5+1>1c60 10c7-10c7+1>1c60",
   "10cd-10cd+1>1c60 13a0-13ef+1>97d0 13f0-13f5+1>8 1c89-1c89+1>1 1c90-1cba+1<bc0",
   "1cbd-1cbf+1<bc0 1e00-1e94+2>1 1e9e-1e9e+1<1dbf 1ea0-1efe+2>1 1f08-1f0f+1<8 1f18-1f1d+1<8",
   "1f28-1f2f+1<8 1f38-1f3f+1<8 1f48-1f4d+1<8 1f59-1f5f+2<8 1f68-1f6f+1<8 1f88-1f8f+1<8",
   "1f98-1f9f+1<8 1fa8-1faf+1<8 1fb8-1fb9+1<8 1fba-1fbb+1<4a 1fbc-1fbc+1<9 1fc8-1fcb+1<56",
   "1fcc-1fcc+1<9 1fd8-1fd9+1<8 1fda-1fdb+1<64 1fe8-1fe9+1<8 1fea-1feb+1<70 1fec-1fec+1<7",
   "1ff8-1ff9+1<80 1ffa-1ffb+1<7e 1ffc-1ffc+1<9 2126-2126+1<1d5d 212a-212a+1<20bf",
   "212b-212b+1<2046 2132-2132+1>1c 2160-216f+1>10 2183-2183+1>1 24b6-24cf+1>1a",
   "2c00-2c2f+1>30 2c60-2c60+1>1 2c62-2c62+1<29f7 2c63-2c63+1<ee6 2c64-2c64+1<29e7",
   "2c67-2c6b+2>1 2c6d-2c6d+1<2a1c 2c6e-2c6e+1<29fd 2c6f-2c6f+1<2a1f 2c70-2c70+1<2a1e",
   "2c72-2c72+1>1 2c75-2c75+1>1 2c7e-2c7f+1<2a3f 2c80-2ce2+2>1 2ceb-2ced+2>1 2cf2-2cf2+1>1",
   "a640-a66c+2>1 a680-a69a+2>1 a722-a72e+2>1 a732-a76e+2>1 a779-a77b+2>1 a77d-a77d+1<8a04",
   "a77e-a786+2>1 a78b-a78b+1>1 a78d-a78d+1<a528 a790-a792+2>1 a796-a7a8+2>1",
   "a7aa-a7aa+1<a544 a7ab-a7ab+1<a54f a7ac-a7ac+1<a54b a7ad-a7ad+1<a541 a7ae-a7ae+1<a544",
   "a7b0-a7b0+1<a512 a7b1-a7b1+1<a52a a7b2-a7b2+1<a515 a7b3-a7b3+1>3a0 a7b4-a7c2+2>1",
   "a7c4-a7c4+1<30 a7c5-a7c5+1<a543 a7c6-a7c6+1<8a38 a7c7-a7c9+2>1 a7cb-a7cb+1<a567",
   "a7cc-a7da+2>1 a7dc-a7dc+1<a641 a7f5-a7f5+1>1 ff21-ff3a+1>20 10400-10427+1>28",
   "104b0-104d3+1>28 10570-1057a+1>27 1057c-1058a+1>27 1058c-10592+1>27 10594-10595+1>27",
   "10c80-10cb2+1>40 10d50-10d65+1>20 118a0-118bf+1>20 16e40-16e5f+1>20 16ea0-16eb8+1>1b",
   "1e900-1e921+1>22"]

/-- From every letter to the representative of its case variants, as of version 16.0 of the
standard.  A representative does not move itself. -/
def foldRuns : List CaseRun := caseRuns
  ["41-5a+1>20 b5-b5+1>307 c0-d6+1>20 d8-de+1>20 100-12e+2>1 132-136+2>1 139-147+2>1",
   "14a-176+2>1 178-178+1<79 179-17d+2>1 17f-17f+1<10c 181-181+1>d2 182-184+2>1 186-186+1>ce",
   "187-187+1>1 189-18a+1>cd 18b-18b+1>1 18e-18e+1>4f 18f-18f+1>ca 190-190+1>cb 191-191+1>1",
   "193-193+1>cd 194-194+1>cf 196-196+1>d3 197-197+1>d1 198-198+1>1 19c-19c+1>d3",
   "19d-19d+1>d5 19f-19f+1>d6 1a0-1a4+2>1 1a6-1a6+1>da 1a7-1a7+1>1 1a9-1a9+1>da 1ac-1ac+1>1",
   "1ae-1ae+1>da 1af-1af+1>1 1b1-1b2+1>d9 1b3-1b5+2>1 1b7-1b7+1>db 1b8-1b8+1>1 1bc-1bc+1>1",
   "1c4-1c4+1>2 1c5-1c5+1>1 1c7-1c7+1>2 1c8-1c8+1>1 1ca-1ca+1>2 1cb-1db+2>1 1de-1ee+2>1",
   "1f1-1f1+1>2 1f2-1f4+2>1 1f6-1f6+1<61 1f7-1f7+1<38 1f8-21e+2>1 220-220+1<82 222-232+2>1",
   "23a-23a+1>2a2b 23b-23b+1>1 23d-23d+1<a3 23e-23e+1>2a28 241-241+1>1 243-243+1<c3",
   "244-244+1>45 245-245+1>47 246-24e+2>1 345-345+1>74 370-372+2>1 376-376+1>1 37f-37f+1>74",
   "386-386+1>26 388-38a+1>25 38c-38c+1>40 38e-38f+1>3f 391-3a1+1>20 3a3-3ab+1>20",
   "3c2-3c2+1>1 3cf-3cf+1>8 3d0-3d0+1<1e 3d1-3d1+1<19 3d5-3d5+1<f 3d6-3d6+1<16 3d8-3ee+2>1",
   "3f0-3f0+1<36 3f1-3f1+1<30 3f4-3f4+1<3c 3f5-3f5+1<40 3f7-3f7+1>1 3f9-3f9+1<7 3fa-3fa+1>1",
   "3fd-3ff+1<82 400-40f+1>50 410-42f+1>20 460-480+2>1 48a-4be+2>1 4c0-4c0+1>f 4c1-4cd+2>1",
   "4d0-52e+2>1 531-556+1>30 10a0-10c5+1>1c60 10c7-10c7+1>1c60 10cd-10cd+1>1c60",
   "13a0-13ef+1>97d0 13f0-13f5+1>8 1c80-1c80+1<184e 1c81-1c81+1<184d 1c82-1c82+1<1844",
   "1c83-1c84+1<1842 1c85-1c85+1<1843 1c86-1c86+1<183c 1c87-1c87+1<1824 1c88-1c88+1>89c3",
   "1c89-1c89+1>1 1c90-1cba+1<bc0 1cbd-1cbf+1<bc0 1e00-1e94+2>1 1e9b-1e9b+1<3a",
   "1e9e-1e9e+1<1dbf 1ea0-1efe+2>1 1f08-1f0f+1<8 1f18-1f1d+1<8 1f28-1f2f+1<8 1f38-1f3f+1<8",
   "1f48-1f4d+1<8 1f59-1f5f+2<8 1f68-1f6f+1<8 1f88-1f8f+1<8 1f98-1f9f+1<8 1fa8-1faf+1<8",
   "1fb8-1fb9+1<8 1fba-1fbb+1<4a 1fbc-1fbc+1<9 1fbe-1fbe+1<1c05 1fc8-1fcb+1<56 1fcc-1fcc+1<9",
   "1fd3-1fd3+1<1c43 1fd8-1fd9+1<8 1fda-1fdb+1<64 1fe3-1fe3+1<1c33 1fe8-1fe9+1<8",
   "1fea-1feb+1<70 1fec-1fec+1<7 1ff8-1ff9+1<80 1ffa-1ffb+1<7e 1ffc-1ffc+1<9",
   "2126-2126+1<1d5d 212a-212a+1<20bf 212b-212b+1<2046 2132-2132+1>1c 2160-216f+1>10",
   "2183-2183+1>1 24b6-24cf+1>1a 2c00-2c2f+1>30 2c60-2c60+1>1 2c62-2c62+1<29f7",
   "2c63-2c63+1<ee6 2c64-2c64+1<29e7 2c67-2c6b+2>1 2c6d-2c6d+1<2a1c 2c6e-2c6e+1<29fd",
   "2c6f-2c6f+1<2a1f 2c70-2c70+1<2a1e 2c72-2c72+1>1 2c75-2c75+1>1 2c7e-2c7f+1<2a3f",
   "2c80-2ce2+2>1 2ceb-2ced+2>1 2cf2-2cf2+1>1 a640-a66c+2>1 a680-a69a+2>1 a722-a72e+2>1",
   "a732-a76e+2>1 a779-a77b+2>1 a77d-a77d+1<8a04 a77e-a786+2>1 a78b-a78b+1>1",
   "a78d-a78d+1<a528 a790-a792+2>1 a796-a7a8+2>1 a7aa-a7aa+1<a544 a7ab-a7ab+1<a54f",
   "a7ac-a7ac+1<a54b a7ad-a7ad+1<a541 a7ae-a7ae+1<a544 a7b0-a7b0+1<a512 a7b1-a7b1+1<a52a",
   "a7b2-a7b2+1<a515 a7b3-a7b3+1>3a0 a7b4-a7c2+2>1 a7c4-a7c4+1<30 a7c5-a7c5+1<a543",
   "a7c6-a7c6+1<8a38 a7c7-a7c9+2>1 a7cb-a7cb+1<a567 a7cc-a7cc+1>1 a7d0-a7d0+1>1",
   "a7d6-a7da+2>1 a7dc-a7dc+1<a641 a7f5-a7f5+1>1 fb06-fb06+1<1 ff21-ff3a+1>20",
   "10400-10427+1>28 104b0-104d3+1>28 10570-1057a+1>27 1057c-1058a+1>27 1058c-10592+1>27",
   "10594-10595+1>27 10c80-10cb2+1>40 10d50-10d65+1>20 118a0-118bf+1>20 16e40-16e5f+1>20",
   "1e900-1e921+1>22"]

/-- Where a list of runs moves a character. -/
def moveBy (runs : List CaseRun) (c : Char) : Char :=
  match runs.find? (fun run => run.holds c.toNat) with
  | some run => Char.ofNat (run.image c.toNat)
  | none => c

/-- The small letter of a character, or the character itself. -/
def lowerOf (c : Char) : Char :=
  if c.toNat < 128 then c.toLower else moveBy lowerRuns c

/-- The representative of a character when letter case is ignored. -/
def foldOf (c : Char) : Char :=
  if c.toNat < 128 then c.toLower else moveBy foldRuns c

/-- Every character that is not a representative itself, with its representative. -/
def foldMoves : List (Nat × Nat) := foldRuns.flatMap CaseRun.moves

/-- The set with all characters that differ from one of its own in letter case at most. -/
def CharSet.closeCase (set : CharSet) : CharSet :=
  let met := foldMoves.filter fun move => set.containsCode move.1 || set.containsCode move.2
  let representatives := CharSet.ofRanges (met.map fun move => (move.2, move.2))
  let variants := foldMoves.filter fun move => representatives.containsCode move.2
  .unionAll [set, representatives, .ofRanges (variants.map fun move => (move.1, move.1))]

end VersionedStore.Unicode
