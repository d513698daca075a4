import MachineOperator.Dict
import MachineOperator.Release.Lookup

/-!
Images that are known beforehand: one for each region, and maybe one for all others.
-/
namespace MachineOperator.Release

structure StaticImages where
  images : Dict String String
  fallback : Option String
deriving DecidableEq

namespace StaticImages

def none : StaticImages := ⟨.empty, .none⟩

/-- The same image for every region. -/
def everywhere (image : String) : StaticImages := ⟨.empty, some image⟩

/-- Of several images for a region the last counts. -/
def withImage (s : StaticImages) (region image : String) : StaticImages :=
  { s with images := s.images.insert region image }

def imageIn? (s : StaticImages) (region : String) : Option String := s.images.get? region <|> s.fallback

/-- What stands for the build that the images are of. -/
def buildName : String := "static"

/-- The channel does not matter. -/
def lookup (s : StaticImages) (region : String) : Except LookupError String :=
  match s.imageIn? region with
  | some image => .ok image
  | .none => .error (.noImage region buildName)

def resolver {m : Type → Type} [Monad m] (s : StaticImages) : Resolver m := fun _ region =>
  ExceptT.mk (pure (s.lookup region))

end StaticImages
end MachineOperator.Release
