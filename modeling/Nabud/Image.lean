import Nabud.Proto

/-!
# Images and channels

The two records of `image.h` that the adaptor reads.  `image.h` is not among the sources; the
fields kept are the ones `adaptor.c` and `conn.c` use, with the meaning the spec gives them.
An image's `length` is the length of its data: the loader hands out buffers of exactly that
size, and `adaptor_send_image` reads `img->data` against `img->length`.
-/

set_option autoImplicit false

namespace Nabud

/-- `IMAGE_CHANNEL_RAW` and `IMAGE_CHANNEL_PAK`. -/
inductive ChannelType where
  | raw
  | pak
  deriving DecidableEq, Repr

/-- `struct image_channel`: an entry of the channel table. -/
structure Channel where
  number : UInt16
  type : ChannelType
  defaultFile : Option String
  retronetEnabled : Bool
  deriving DecidableEq, Repr

/-- `struct nabu_image`. -/
structure Image where
  name : String
  data : List UInt8
  number : UInt32
  /-- The channel the image was loaded from; the synthetic time image has none. -/
  channel : Option Channel
  deriving DecidableEq, Repr

/-- `img->length`. -/
def Image.length (img : Image) : Nat := img.data.length

/-- The test `adaptor_send_image` makes before handing an image to `adaptor_send_pak`. -/
def Image.isPak (img : Image) : Bool :=
  match img.channel with
  | some c => c.type = .pak
  | none => false

end Nabud
