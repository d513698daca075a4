import MachineOperator.Json.Shape

/-!
What the release server publishes: for each channel the index of its builds, newest first, and for each build
the machine images that were made of it.
-/
namespace MachineOperator.Release
open Json (Shape)

/-- The builds of a channel, newest first. -/
structure BuildIndex where
  builds : List String
deriving DecidableEq

/-- The image to boot machines of a region from. -/
structure RegionImage where
  region : String
  image : String
deriving DecidableEq

structure BuildMeta where
  images : List RegionImage
deriving DecidableEq

namespace BuildIndex

def shape : Shape :=
  .record "BuildIndex" <|
  .cons "builds" true (.listOf .text) <|
  .nil

def decode (text : List UInt8) : Except Json.Error BuildIndex :=
  (shape.decode text).map fun (builds, ()) => ⟨builds⟩

def latest? (index : BuildIndex) : Option String := index.builds.head?

end BuildIndex

namespace RegionImage

def shape : Shape :=
  .record "RegionImage" <|
  .cons "name" false .text <|
  .cons "hvm" false .text <|
  .nil

def ofCarrier : shape.Carrier → RegionImage
  | (region, image, ()) => { region, image }

end RegionImage

namespace BuildMeta

def shape : Shape :=
  .record "BuildMeta" <|
  .cons "amis" true (.listOf RegionImage.shape) <|
  .nil

def decode (text : List UInt8) : Except Json.Error BuildMeta :=
  (shape.decode text).map fun (images, ()) => ⟨List.map (α := RegionImage.shape.Carrier) .ofCarrier images⟩

/-- Of several images for a region the first counts. -/
def imageIn? (build : BuildMeta) (region : String) : Option String :=
  (build.images.find? (·.region = region)).map RegionImage.image

end BuildMeta
end MachineOperator.Release
