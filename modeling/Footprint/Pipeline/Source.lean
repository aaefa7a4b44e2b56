import Footprint.FileTree
import Footprint.Pipeline

/-! Requests for one file by where it is to be had: a content under a name, or a file at a path. Where
there is no such file nothing is measured. -/
namespace Footprint.Pipeline

variable {σ : Type}

/-- The pipeline that a request for one source sets up, within the call that does so. -/
def deeper (p : Pipeline σ) (calls : Nat) : Pipeline σ := { p with meter := p.meter.deeper calls }

def runFrom (p : Pipeline σ) (r : Request) (source : Outcome SourceUnit) (world : σ) :
    Recorded AnalysisResult × σ :=
  match source with
  | .error cause => (⟨[], .error cause⟩, world)
  | .ok u => p.run r u world

def runContent (p : Pipeline σ) (r : Request) (name : String) (content : Option String) (world : σ) :
    Recorded AnalysisResult × σ :=
  (p.deeper 1).runFrom r (SourceUnit.ofInput p.meter.languages name content .null) world

def runFile (p : Pipeline σ) (r : Request) (look : Path → Found) (path : Path) (world : σ) :
    Recorded AnalysisResult × σ :=
  (p.deeper 1).runFrom r (SourceUnit.read p.meter.languages look path) world

end Footprint.Pipeline
