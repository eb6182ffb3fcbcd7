import PageHarvest.Text.Case

/-!
# What characters of domain names stand for

Before a domain name is looked at, each character is replaced by the ones that it stands for in such names. The tables
hold what is neither the lower case of the character nor equivalent to it. Except for `runs`, they list what consecutive
code points, given by the first one, stand for.
-/

namespace PageHarvest.Url.Domain

open PageHarvest.Text (Run)

/-- Runs of code points, each of which stands for one other. -/
def runs : Array Run := #[
  ⟨0x13a0, 0x13f5, 1, 0⟩, ⟨0x13f8, 0x13fd, 1, -8⟩, ⟨0x1d33, 0x1d3a, 1, -7372⟩, ⟨0x1d5d, 0x1d5f, 1, -6571⟩,
  ⟨0x1da4, 0x1da6, 1, -6972⟩, ⟨0x1dae, 0x1db1, 1, -6972⟩, ⟨0x1dbc, 0x1dbe, 1, -6956⟩, ⟨0x2074, 0x2079, 1, -8256⟩,
  ⟨0x2080, 0x2089, 1, -8272⟩, ⟨0x2096, 0x2099, 1, -8235⟩, ⟨0x2119, 0x211b, 1, -8361⟩, ⟨0x2135, 0x2138, 1, -7013⟩,
  ⟨0x2460, 0x2468, 1, -9263⟩, ⟨0x24b6, 0x24cf, 1, -9301⟩, ⟨0x24d0, 0x24e9, 1, -9327⟩, ⟨0x3137, 0x3139, 1, -8244⟩,
  ⟨0x313a, 0x313f, 1, -8074⟩, ⟨0x3141, 0x3143, 1, -8251⟩, ⟨0x3145, 0x314e, 1, -8252⟩, ⟨0x314f, 0x3163, 1, -8174⟩,
  ⟨0x3178, 0x317c, 1, -8269⟩, ⟨0x3184, 0x3186, 1, -8237⟩, ⟨0x3263, 0x3265, 1, -8542⟩, ⟨0x3269, 0x326d, 1, -8539⟩,
  ⟨0x32e4, 0x32e9, 1, -538⟩, ⟨0x32ee, 0x32f2, 1, -528⟩, ⟨0x32f5, 0x32fa, 1, -525⟩, ⟨0x32fb, 0x32fe, 1, -524⟩,
  ⟨0xab70, 0xabbf, 1, -38864⟩, ⟨0xfb24, 0xfb26, 1, -62793⟩, ⟨0xfe41, 0xfe44, 1, -52789⟩,
  ⟨0xff01, 0xff20, 1, -65248⟩, ⟨0xff21, 0xff3a, 1, -65216⟩, ⟨0xff3b, 0xff5e, 1, -65248⟩,
  ⟨0xff85, 0xff8a, 1, -52923⟩, ⟨0xff8f, 0xff93, 1, -52913⟩, ⟨0xff96, 0xff9b, 1, -52910⟩,
  ⟨0xffa7, 0xffa9, 1, -61092⟩, ⟨0xffaa, 0xffaf, 1, -60922⟩, ⟨0xffb1, 0xffb3, 1, -61099⟩,
  ⟨0xffb5, 0xffbe, 1, -61100⟩, ⟨0xffc2, 0xffc7, 1, -61025⟩, ⟨0xffca, 0xffcf, 1, -61027⟩,
  ⟨0xffd2, 0xffd7, 1, -61029⟩, ⟨0xffda, 0xffdc, 1, -61031⟩, ⟨0xffe9, 0xffec, 1, -56921⟩,
  ⟨0x107b6, 0x107b8, 1, -67062⟩, ⟨0x1ccd6, 0x1ccef, 1, -117877⟩, ⟨0x1ccf0, 0x1ccf9, 1, -117952⟩,
  ⟨0x1d400, 0x1d419, 1, -119711⟩, ⟨0x1d41a, 0x1d433, 1, -119737⟩, ⟨0x1d434, 0x1d44d, 1, -119763⟩,
  ⟨0x1d44e, 0x1d454, 1, -119789⟩, ⟨0x1d456, 0x1d467, 1, -119789⟩, ⟨0x1d468, 0x1d481, 1, -119815⟩,
  ⟨0x1d482, 0x1d49b, 1, -119841⟩, ⟨0x1d4a9, 0x1d4ac, 1, -119867⟩, ⟨0x1d4ae, 0x1d4b5, 1, -119867⟩,
  ⟨0x1d4b6, 0x1d4b9, 1, -119893⟩, ⟨0x1d4bd, 0x1d4c3, 1, -119893⟩, ⟨0x1d4c5, 0x1d4cf, 1, -119893⟩,
  ⟨0x1d4d0, 0x1d4e9, 1, -119919⟩, ⟨0x1d4ea, 0x1d503, 1, -119945⟩, ⟨0x1d507, 0x1d50a, 1, -119971⟩,
  ⟨0x1d50d, 0x1d514, 1, -119971⟩, ⟨0x1d516, 0x1d51c, 1, -119971⟩, ⟨0x1d51e, 0x1d537, 1, -119997⟩,
  ⟨0x1d53b, 0x1d53e, 1, -120023⟩, ⟨0x1d540, 0x1d544, 1, -120023⟩, ⟨0x1d54a, 0x1d550, 1, -120023⟩,
  ⟨0x1d552, 0x1d56b, 1, -120049⟩, ⟨0x1d56c, 0x1d585, 1, -120075⟩, ⟨0x1d586, 0x1d59f, 1, -120101⟩,
  ⟨0x1d5a0, 0x1d5b9, 1, -120127⟩, ⟨0x1d5ba, 0x1d5d3, 1, -120153⟩, ⟨0x1d5d4, 0x1d5ed, 1, -120179⟩,
  ⟨0x1d5ee, 0x1d607, 1, -120205⟩, ⟨0x1d608, 0x1d621, 1, -120231⟩, ⟨0x1d622, 0x1d63b, 1, -120257⟩,
  ⟨0x1d63c, 0x1d655, 1, -120283⟩, ⟨0x1d656, 0x1d66f, 1, -120309⟩, ⟨0x1d670, 0x1d689, 1, -120335⟩,
  ⟨0x1d68a, 0x1d6a3, 1, -120361⟩, ⟨0x1d6a8, 0x1d6b8, 1, -119543⟩, ⟨0x1d6ba, 0x1d6c0, 1, -119543⟩,
  ⟨0x1d6c2, 0x1d6d2, 1, -119569⟩, ⟨0x1d6d4, 0x1d6da, 1, -119569⟩, ⟨0x1d6e2, 0x1d6f2, 1, -119601⟩,
  ⟨0x1d6f4, 0x1d6fa, 1, -119601⟩, ⟨0x1d6fc, 0x1d70c, 1, -119627⟩, ⟨0x1d70e, 0x1d714, 1, -119627⟩,
  ⟨0x1d71c, 0x1d72c, 1, -119659⟩, ⟨0x1d72e, 0x1d734, 1, -119659⟩, ⟨0x1d736, 0x1d746, 1, -119685⟩,
  ⟨0x1d748, 0x1d74e, 1, -119685⟩, ⟨0x1d756, 0x1d766, 1, -119717⟩, ⟨0x1d768, 0x1d76e, 1, -119717⟩,
  ⟨0x1d770, 0x1d780, 1, -119743⟩, ⟨0x1d782, 0x1d788, 1, -119743⟩, ⟨0x1d790, 0x1d7a0, 1, -119775⟩,
  ⟨0x1d7a2, 0x1d7a8, 1, -119775⟩, ⟨0x1d7aa, 0x1d7ba, 1, -119801⟩, ⟨0x1d7bc, 0x1d7c2, 1, -119801⟩,
  ⟨0x1d7ce, 0x1d7d7, 1, -120734⟩, ⟨0x1d7d8, 0x1d7e1, 1, -120744⟩, ⟨0x1d7e2, 0x1d7eb, 1, -120754⟩,
  ⟨0x1d7ec, 0x1d7f5, 1, -120764⟩, ⟨0x1d7f6, 0x1d7ff, 1, -120774⟩, ⟨0x1e030, 0x1e038, 1, -121856⟩,
  ⟨0x1e039, 0x1e03b, 1, -121855⟩, ⟨0x1e03c, 0x1e046, 1, -121854⟩, ⟨0x1e051, 0x1e059, 1, -121889⟩,
  ⟨0x1e05f, 0x1e064, 1, -121884⟩, ⟨0x1ee0a, 0x1ee0d, 1, -124871⟩, ⟨0x1ee2a, 0x1ee2d, 1, -124903⟩,
  ⟨0x1ee8b, 0x1ee8d, 1, -124999⟩, ⟨0x1eeab, 0x1eead, 1, -125031⟩, ⟨0x1f130, 0x1f149, 1, -127183⟩,
  ⟨0x1fbf0, 0x1fbf9, 1, -129984⟩]

/-- What letters and signs of most scripts stand for. -/
def letters : Array (Nat × Array (List Nat)) := #[
  (0xa0, #[[0x20]]), (0xa8, #[[0x20, 0x308]]), (0xaa, #[[0x61]]), (0xaf, #[[0x20, 0x304]]), (0xb2, #[[0x32], [0x33],
    [0x20, 0x301], [0x3bc]]), (0xb8, #[[0x20, 0x327], [0x31], [0x6f]]), (0xbc, #[[0x31, 0x2044, 0x34],
    [0x31, 0x2044, 0x32], [0x33, 0x2044, 0x34]]), (0x132, #[[0x69, 0x6a], [0x69, 0x6a]]), (0x13f, #[[0x6c, 0xb7],
    [0x6c, 0xb7]]), (0x149, #[[0x2bc, 0x6e]]), (0x17f, #[[0x73]]), (0x1c4, #[[0x64, 0x17e], [0x64, 0x17e],
    [0x64, 0x17e], [0x6c, 0x6a], [0x6c, 0x6a], [0x6c, 0x6a], [0x6e, 0x6a], [0x6e, 0x6a], [0x6e, 0x6a]]),
  (0x1f1, #[[0x64, 0x7a], [0x64, 0x7a], [0x64, 0x7a]]), (0x2b0, #[[0x68], [0x266], [0x6a], [0x72], [0x279], [0x27b],
    [0x281], [0x77], [0x79]]), (0x2d8, #[[0x20, 0x306], [0x20, 0x307], [0x20, 0x30a], [0x20, 0x328], [0x20, 0x303],
    [0x20, 0x30b]]), (0x2e0, #[[0x263], [0x6c], [0x73], [0x78], [0x295]]), (0x345, #[[0x3b9]]),
  (0x37a, #[[0x20, 0x3b9]]), (0x384, #[[0x20, 0x301], [0x20, 0x308, 0x301]]), (0x3d0, #[[0x3b2], [0x3b8], [0x3c5],
    [0x3cd], [0x3cb], [0x3c6], [0x3c0]]), (0x3f0, #[[0x3ba], [0x3c1], [0x3c3]]), (0x3f5, #[[0x3b5]]),
  (0x3f9, #[[0x3c3]]), (0x587, #[[0x565, 0x582]]), (0x675, #[[0x627, 0x674], [0x648, 0x674], [0x6c7, 0x674],
    [0x64a, 0x674]]), (0xe33, #[[0xe4d, 0xe32]]), (0xeb3, #[[0xecd, 0xeb2]]), (0xedc, #[[0xeab, 0xe99],
    [0xeab, 0xea1]]), (0xf0c, #[[0xf0b]]), (0xf77, #[[0xfb2, 0xf71, 0xf80]]), (0xf79, #[[0xfb3, 0xf71, 0xf80]]),
  (0x10fc, #[[0x10dc]]), (0x1c80, #[[0x432], [0x434], [0x43e], [0x441], [0x442], [0x442], [0x44a], [0x463],
    [0xa64b]]), (0x1d2c, #[[0x61], [0xe6], [0x62]]), (0x1d30, #[[0x64], [0x65], [0x1dd]]), (0x1d3c, #[[0x6f],
    [0x223], [0x70], [0x72], [0x74], [0x75], [0x77], [0x61], [0x250], [0x251], [0x1d02], [0x62], [0x64], [0x65],
    [0x259], [0x25b], [0x25c], [0x67]]), (0x1d4f, #[[0x6b], [0x6d], [0x14b], [0x6f], [0x254], [0x1d16], [0x1d17],
    [0x70], [0x74], [0x75], [0x1d1d], [0x26f], [0x76], [0x1d25]]), (0x1d60, #[[0x3c6], [0x3c7], [0x69], [0x72],
    [0x75], [0x76], [0x3b2], [0x3b3], [0x3c1], [0x3c6], [0x3c7]]), (0x1d78, #[[0x43d]]), (0x1d9b, #[[0x252], [0x63],
    [0x255], [0xf0], [0x25c], [0x66], [0x25f], [0x261], [0x265]]), (0x1da7, #[[0x1d7b], [0x29d], [0x26d], [0x1d85],
    [0x29f], [0x271], [0x270]]), (0x1db2, #[[0x278], [0x282], [0x283], [0x1ab], [0x289], [0x28a], [0x1d1c], [0x28b],
    [0x28c], [0x7a]]), (0x1dbf, #[[0x3b8]]), (0x1e9a, #[[0x61, 0x2be], [0x1e61]]), (0x1f80, #[[0x1f00, 0x3b9],
    [0x1f01, 0x3b9], [0x1f02, 0x3b9], [0x1f03, 0x3b9], [0x1f04, 0x3b9], [0x1f05, 0x3b9], [0x1f06, 0x3b9],
    [0x1f07, 0x3b9], [0x1f00, 0x3b9], [0x1f01, 0x3b9], [0x1f02, 0x3b9], [0x1f03, 0x3b9], [0x1f04, 0x3b9],
    [0x1f05, 0x3b9], [0x1f06, 0x3b9], [0x1f07, 0x3b9], [0x1f20, 0x3b9], [0x1f21, 0x3b9], [0x1f22, 0x3b9],
    [0x1f23, 0x3b9], [0x1f24, 0x3b9], [0x1f25, 0x3b9], [0x1f26, 0x3b9], [0x1f27, 0x3b9], [0x1f20, 0x3b9],
    [0x1f21, 0x3b9], [0x1f22, 0x3b9], [0x1f23, 0x3b9], [0x1f24, 0x3b9], [0x1f25, 0x3b9], [0x1f26, 0x3b9],
    [0x1f27, 0x3b9], [0x1f60, 0x3b9], [0x1f61, 0x3b9], [0x1f62, 0x3b9], [0x1f63, 0x3b9], [0x1f64, 0x3b9],
    [0x1f65, 0x3b9], [0x1f66, 0x3b9], [0x1f67, 0x3b9], [0x1f60, 0x3b9], [0x1f61, 0x3b9], [0x1f62, 0x3b9],
    [0x1f63, 0x3b9], [0x1f64, 0x3b9], [0x1f65, 0x3b9], [0x1f66, 0x3b9], [0x1f67, 0x3b9]]),
  (0x1fb2, #[[0x1f70, 0x3b9], [0x3b1, 0x3b9], [0x3ac, 0x3b9]]), (0x1fb7, #[[0x1fb6, 0x3b9]]),
  (0x1fbc, #[[0x3b1, 0x3b9], [0x20, 0x313]]), (0x1fbf, #[[0x20, 0x313], [0x20, 0x342], [0x20, 0x308, 0x342],
    [0x1f74, 0x3b9], [0x3b7, 0x3b9], [0x3ae, 0x3b9]]), (0x1fc7, #[[0x1fc6, 0x3b9]]), (0x1fcc, #[[0x3b7, 0x3b9],
    [0x20, 0x313, 0x300], [0x20, 0x313, 0x301], [0x20, 0x313, 0x342]]), (0x1fdd, #[[0x20, 0x314, 0x300],
    [0x20, 0x314, 0x301], [0x20, 0x314, 0x342]]), (0x1fed, #[[0x20, 0x308, 0x300], [0x20, 0x308, 0x301]]),
  (0x1ff2, #[[0x1f7c, 0x3b9], [0x3c9, 0x3b9], [0x3ce, 0x3b9]]), (0x1ff7, #[[0x1ff6, 0x3b9]]),
  (0x1ffc, #[[0x3c9, 0x3b9], [0x20, 0x301], [0x20, 0x314]]), (0x2000, #[[0x20], [0x20], [0x20], [0x20], [0x20],
    [0x20], [0x20], [0x20], [0x20], [0x20], [0x20]]), (0x2011, #[[0x2010]]), (0x2017, #[[0x20, 0x333]]),
  (0x202f, #[[0x20]]), (0x2033, #[[0x2032, 0x2032], [0x2032, 0x2032, 0x2032]]), (0x2036, #[[0x2035, 0x2035],
    [0x2035, 0x2035, 0x2035]]), (0x203c, #[[0x21, 0x21]]), (0x203e, #[[0x20, 0x305]]), (0x2047, #[[0x3f, 0x3f],
    [0x3f, 0x21], [0x21, 0x3f]]), (0x2057, #[[0x2032, 0x2032, 0x2032, 0x2032]]), (0x205f, #[[0x20]]),
  (0x2070, #[[0x30], [0x69]]), (0x207a, #[[0x2b], [0x2212], [0x3d], [0x28], [0x29], [0x6e]]), (0x208a, #[[0x2b],
    [0x2212], [0x3d], [0x28], [0x29]]), (0x2090, #[[0x61], [0x65], [0x6f], [0x78], [0x259], [0x68]]),
  (0x209a, #[[0x70], [0x73], [0x74]]), (0x20a8, #[[0x72, 0x73]]), (0x2100, #[[0x61, 0x2f, 0x63], [0x61, 0x2f, 0x73],
    [0x63], [0xb0, 0x63]]), (0x2105, #[[0x63, 0x2f, 0x6f], [0x63, 0x2f, 0x75], [0x25b]]), (0x2109, #[[0xb0, 0x66],
    [0x67], [0x68], [0x68], [0x68], [0x68], [0x127], [0x69], [0x69], [0x6c], [0x6c]]), (0x2115, #[[0x6e],
    [0x6e, 0x6f]]), (0x211c, #[[0x72], [0x72]]), (0x2120, #[[0x73, 0x6d], [0x74, 0x65, 0x6c], [0x74, 0x6d]]),
  (0x2124, #[[0x7a]]), (0x2128, #[[0x7a]]), (0x212c, #[[0x62], [0x63]]), (0x212f, #[[0x65], [0x65], [0x66]]),
  (0x2133, #[[0x6d], [0x6f]]), (0x2139, #[[0x69]]), (0x213b, #[[0x66, 0x61, 0x78], [0x3c0], [0x3b3], [0x3b3],
    [0x3c0], [0x2211]]), (0x2145, #[[0x64], [0x64], [0x65], [0x69], [0x6a]]), (0x2150, #[[0x31, 0x2044, 0x37],
    [0x31, 0x2044, 0x39], [0x31, 0x2044, 0x31, 0x30], [0x31, 0x2044, 0x33], [0x32, 0x2044, 0x33],
    [0x31, 0x2044, 0x35], [0x32, 0x2044, 0x35], [0x33, 0x2044, 0x35], [0x34, 0x2044, 0x35], [0x31, 0x2044, 0x36],
    [0x35, 0x2044, 0x36], [0x31, 0x2044, 0x38], [0x33, 0x2044, 0x38], [0x35, 0x2044, 0x38], [0x37, 0x2044, 0x38],
    [0x31, 0x2044], [0x69], [0x69, 0x69], [0x69, 0x69, 0x69], [0x69, 0x76], [0x76], [0x76, 0x69],
    [0x76, 0x69, 0x69], [0x76, 0x69, 0x69, 0x69], [0x69, 0x78], [0x78], [0x78, 0x69], [0x78, 0x69, 0x69], [0x6c],
    [0x63], [0x64], [0x6d], [0x69], [0x69, 0x69], [0x69, 0x69, 0x69], [0x69, 0x76], [0x76], [0x76, 0x69],
    [0x76, 0x69, 0x69], [0x76, 0x69, 0x69, 0x69], [0x69, 0x78], [0x78], [0x78, 0x69], [0x78, 0x69, 0x69], [0x6c],
    [0x63], [0x64], [0x6d]]), (0x2189, #[[0x30, 0x2044, 0x33]]), (0x222c, #[[0x222b, 0x222b],
    [0x222b, 0x222b, 0x222b]]), (0x222f, #[[0x222e, 0x222e], [0x222e, 0x222e, 0x222e]]), (0x2469, #[[0x31, 0x30],
    [0x31, 0x31], [0x31, 0x32], [0x31, 0x33], [0x31, 0x34], [0x31, 0x35], [0x31, 0x36], [0x31, 0x37], [0x31, 0x38],
    [0x31, 0x39], [0x32, 0x30], [0x28, 0x31, 0x29], [0x28, 0x32, 0x29], [0x28, 0x33, 0x29], [0x28, 0x34, 0x29],
    [0x28, 0x35, 0x29], [0x28, 0x36, 0x29], [0x28, 0x37, 0x29], [0x28, 0x38, 0x29], [0x28, 0x39, 0x29],
    [0x28, 0x31, 0x30, 0x29], [0x28, 0x31, 0x31, 0x29], [0x28, 0x31, 0x32, 0x29], [0x28, 0x31, 0x33, 0x29],
    [0x28, 0x31, 0x34, 0x29], [0x28, 0x31, 0x35, 0x29], [0x28, 0x31, 0x36, 0x29], [0x28, 0x31, 0x37, 0x29],
    [0x28, 0x31, 0x38, 0x29], [0x28, 0x31, 0x39, 0x29], [0x28, 0x32, 0x30, 0x29]]), (0x249c, #[[0x28, 0x61, 0x29],
    [0x28, 0x62, 0x29], [0x28, 0x63, 0x29], [0x28, 0x64, 0x29], [0x28, 0x65, 0x29], [0x28, 0x66, 0x29],
    [0x28, 0x67, 0x29], [0x28, 0x68, 0x29], [0x28, 0x69, 0x29], [0x28, 0x6a, 0x29], [0x28, 0x6b, 0x29],
    [0x28, 0x6c, 0x29], [0x28, 0x6d, 0x29], [0x28, 0x6e, 0x29], [0x28, 0x6f, 0x29], [0x28, 0x70, 0x29],
    [0x28, 0x71, 0x29], [0x28, 0x72, 0x29], [0x28, 0x73, 0x29], [0x28, 0x74, 0x29], [0x28, 0x75, 0x29],
    [0x28, 0x76, 0x29], [0x28, 0x77, 0x29], [0x28, 0x78, 0x29], [0x28, 0x79, 0x29], [0x28, 0x7a, 0x29]]),
  (0x24ea, #[[0x30]]), (0x2a0c, #[[0x222b, 0x222b, 0x222b, 0x222b]]), (0x2a74, #[[0x3a, 0x3a, 0x3d], [0x3d, 0x3d],
    [0x3d, 0x3d, 0x3d]]), (0x2c7c, #[[0x6a], [0x76]]), (0x2d6f, #[[0x2d61]]), (0x2e9f, #[[0x6bcd]]),
  (0x2ef3, #[[0x9f9f]]), (0x2f00, #[[0x4e00], [0x4e28], [0x4e36], [0x4e3f], [0x4e59], [0x4e85], [0x4e8c], [0x4ea0],
    [0x4eba], [0x513f], [0x5165], [0x516b], [0x5182], [0x5196], [0x51ab], [0x51e0], [0x51f5], [0x5200], [0x529b],
    [0x52f9], [0x5315], [0x531a], [0x5338], [0x5341], [0x535c], [0x5369], [0x5382], [0x53b6], [0x53c8], [0x53e3],
    [0x56d7], [0x571f], [0x58eb], [0x5902], [0x590a], [0x5915], [0x5927], [0x5973], [0x5b50], [0x5b80], [0x5bf8],
    [0x5c0f], [0x5c22], [0x5c38], [0x5c6e], [0x5c71], [0x5ddb], [0x5de5], [0x5df1], [0x5dfe], [0x5e72], [0x5e7a],
    [0x5e7f], [0x5ef4], [0x5efe], [0x5f0b], [0x5f13], [0x5f50], [0x5f61], [0x5f73], [0x5fc3], [0x6208], [0x6236],
    [0x624b]]), (0x2f40, #[[0x652f], [0x6534], [0x6587], [0x6597], [0x65a4], [0x65b9], [0x65e0], [0x65e5], [0x66f0],
    [0x6708], [0x6728], [0x6b20], [0x6b62], [0x6b79], [0x6bb3], [0x6bcb], [0x6bd4], [0x6bdb], [0x6c0f], [0x6c14],
    [0x6c34], [0x706b], [0x722a], [0x7236], [0x723b], [0x723f], [0x7247], [0x7259], [0x725b], [0x72ac], [0x7384],
    [0x7389], [0x74dc], [0x74e6], [0x7518], [0x751f], [0x7528], [0x7530], [0x758b], [0x7592], [0x7676], [0x767d],
    [0x76ae], [0x76bf], [0x76ee], [0x77db], [0x77e2], [0x77f3], [0x793a], [0x79b8], [0x79be], [0x7a74], [0x7acb],
    [0x7af9], [0x7c73], [0x7cf8], [0x7f36], [0x7f51], [0x7f8a], [0x7fbd], [0x8001], [0x800c], [0x8012], [0x8033]]),
  (0x2f80, #[[0x807f], [0x8089], [0x81e3], [0x81ea], [0x81f3], [0x81fc], [0x820c], [0x821b], [0x821f], [0x826e],
    [0x8272], [0x8278], [0x864d], [0x866b], [0x8840], [0x884c], [0x8863], [0x897e], [0x898b], [0x89d2], [0x8a00],
    [0x8c37], [0x8c46], [0x8c55], [0x8c78], [0x8c9d], [0x8d64], [0x8d70], [0x8db3], [0x8eab], [0x8eca], [0x8f9b],
    [0x8fb0], [0x8fb5], [0x9091], [0x9149], [0x91c6], [0x91cc], [0x91d1], [0x9577], [0x9580], [0x961c], [0x96b6],
    [0x96b9], [0x96e8], [0x9751], [0x975e], [0x9762], [0x9769], [0x97cb], [0x97ed], [0x97f3], [0x9801], [0x98a8],
    [0x98db], [0x98df], [0x9996], [0x9999], [0x99ac], [0x9aa8], [0x9ad8], [0x9adf], [0x9b25], [0x9b2f]]),
  (0x2fc0, #[[0x9b32], [0x9b3c], [0x9b5a], [0x9ce5], [0x9e75], [0x9e7f], [0x9ea5], [0x9ebb], [0x9ec3], [0x9ecd],
    [0x9ed1], [0x9ef9], [0x9efd], [0x9f0e], [0x9f13], [0x9f20], [0x9f3b], [0x9f4a], [0x9f52], [0x9f8d], [0x9f9c],
    [0x9fa0]])]

/-- What characters in circles and squares, and East Asian ones of another form, stand for. -/
def squares : Array (Nat × Array (List Nat)) := #[
  (0x3000, #[[0x20]]), (0x3002, #[[0x2e]]), (0x3036, #[[0x3012]]), (0x3038, #[[0x5341], [0x5344], [0x5345]]),
  (0x309b, #[[0x20, 0x3099], [0x20, 0x309a]]), (0x309f, #[[0x3088, 0x308a]]), (0x30ff, #[[0x30b3, 0x30c8]]),
  (0x3131, #[[0x1100], [0x1101], [0x11aa], [0x1102], [0x11ac], [0x11ad]]), (0x3140, #[[0x111a]]),
  (0x3144, #[[0x1121]]), (0x3165, #[[0x1114], [0x1115], [0x11c7], [0x11c8], [0x11cc], [0x11ce], [0x11d3], [0x11d7],
    [0x11d9], [0x111c], [0x11dd], [0x11df], [0x111d], [0x111e], [0x1120], [0x1122], [0x1123], [0x1127], [0x1129]]),
  (0x317d, #[[0x1132], [0x1136], [0x1140], [0x1147], [0x114c], [0x11f1], [0x11f2]]), (0x3187, #[[0x1184], [0x1185],
    [0x1188], [0x1191], [0x1192], [0x1194], [0x119e], [0x11a1]]), (0x3192, #[[0x4e00], [0x4e8c], [0x4e09], [0x56db],
    [0x4e0a], [0x4e2d], [0x4e0b], [0x7532], [0x4e59], [0x4e19], [0x4e01], [0x5929], [0x5730], [0x4eba]]),
  (0x3200, #[[0x28, 0x1100, 0x29], [0x28, 0x1102, 0x29], [0x28, 0x1103, 0x29], [0x28, 0x1105, 0x29],
    [0x28, 0x1106, 0x29], [0x28, 0x1107, 0x29], [0x28, 0x1109, 0x29], [0x28, 0x110b, 0x29], [0x28, 0x110c, 0x29],
    [0x28, 0x110e, 0x29], [0x28, 0x110f, 0x29], [0x28, 0x1110, 0x29], [0x28, 0x1111, 0x29], [0x28, 0x1112, 0x29],
    [0x28, 0xac00, 0x29], [0x28, 0xb098, 0x29], [0x28, 0xb2e4, 0x29], [0x28, 0xb77c, 0x29], [0x28, 0xb9c8, 0x29],
    [0x28, 0xbc14, 0x29], [0x28, 0xc0ac, 0x29], [0x28, 0xc544, 0x29], [0x28, 0xc790, 0x29], [0x28, 0xcc28, 0x29],
    [0x28, 0xce74, 0x29], [0x28, 0xd0c0, 0x29], [0x28, 0xd30c, 0x29], [0x28, 0xd558, 0x29], [0x28, 0xc8fc, 0x29],
    [0x28, 0xc624, 0xc804, 0x29], [0x28, 0xc624, 0xd6c4, 0x29]]), (0x3220, #[[0x28, 0x4e00, 0x29],
    [0x28, 0x4e8c, 0x29], [0x28, 0x4e09, 0x29], [0x28, 0x56db, 0x29], [0x28, 0x4e94, 0x29], [0x28, 0x516d, 0x29],
    [0x28, 0x4e03, 0x29], [0x28, 0x516b, 0x29], [0x28, 0x4e5d, 0x29], [0x28, 0x5341, 0x29], [0x28, 0x6708, 0x29],
    [0x28, 0x706b, 0x29], [0x28, 0x6c34, 0x29], [0x28, 0x6728, 0x29], [0x28, 0x91d1, 0x29], [0x28, 0x571f, 0x29],
    [0x28, 0x65e5, 0x29], [0x28, 0x682a, 0x29], [0x28, 0x6709, 0x29], [0x28, 0x793e, 0x29], [0x28, 0x540d, 0x29],
    [0x28, 0x7279, 0x29], [0x28, 0x8ca1, 0x29], [0x28, 0x795d, 0x29], [0x28, 0x52b4, 0x29], [0x28, 0x4ee3, 0x29],
    [0x28, 0x547c, 0x29], [0x28, 0x5b66, 0x29], [0x28, 0x76e3, 0x29], [0x28, 0x4f01, 0x29], [0x28, 0x8cc7, 0x29],
    [0x28, 0x5354, 0x29], [0x28, 0x796d, 0x29], [0x28, 0x4f11, 0x29], [0x28, 0x81ea, 0x29], [0x28, 0x81f3, 0x29],
    [0x554f], [0x5e7c], [0x6587], [0x7b8f]]), (0x3250, #[[0x70, 0x74, 0x65], [0x32, 0x31], [0x32, 0x32],
    [0x32, 0x33], [0x32, 0x34], [0x32, 0x35], [0x32, 0x36], [0x32, 0x37], [0x32, 0x38], [0x32, 0x39], [0x33, 0x30],
    [0x33, 0x31], [0x33, 0x32], [0x33, 0x33], [0x33, 0x34], [0x33, 0x35], [0x1100], [0x1102], [0x1103]]),
  (0x3266, #[[0x1109], [0x110b], [0x110c]]), (0x326e, #[[0xac00], [0xb098], [0xb2e4], [0xb77c], [0xb9c8], [0xbc14],
    [0xc0ac], [0xc544], [0xc790], [0xcc28], [0xce74], [0xd0c0], [0xd30c], [0xd558], [0xcc38, 0xace0],
    [0xc8fc, 0xc758], [0xc6b0]]), (0x3280, #[[0x4e00], [0x4e8c], [0x4e09], [0x56db], [0x4e94], [0x516d], [0x4e03],
    [0x516b], [0x4e5d], [0x5341], [0x6708], [0x706b], [0x6c34], [0x6728], [0x91d1], [0x571f], [0x65e5], [0x682a],
    [0x6709], [0x793e], [0x540d], [0x7279], [0x8ca1], [0x795d], [0x52b4], [0x79d8], [0x7537], [0x5973], [0x9069],
    [0x512a], [0x5370], [0x6ce8], [0x9805], [0x4f11], [0x5199], [0x6b63], [0x4e0a], [0x4e2d], [0x4e0b], [0x5de6],
    [0x53f3], [0x533b], [0x5b97], [0x5b66], [0x76e3], [0x4f01], [0x8cc7], [0x5354], [0x591c], [0x33, 0x36],
    [0x33, 0x37], [0x33, 0x38], [0x33, 0x39], [0x34, 0x30], [0x34, 0x31], [0x34, 0x32], [0x34, 0x33], [0x34, 0x34],
    [0x34, 0x35], [0x34, 0x36], [0x34, 0x37], [0x34, 0x38], [0x34, 0x39], [0x35, 0x30]]), (0x32c0, #[[0x31, 0x6708],
    [0x32, 0x6708], [0x33, 0x6708], [0x34, 0x6708], [0x35, 0x6708], [0x36, 0x6708], [0x37, 0x6708], [0x38, 0x6708],
    [0x39, 0x6708], [0x31, 0x30, 0x6708], [0x31, 0x31, 0x6708], [0x31, 0x32, 0x6708], [0x68, 0x67],
    [0x65, 0x72, 0x67], [0x65, 0x76], [0x6c, 0x74, 0x64], [0x30a2], [0x30a4], [0x30a6], [0x30a8], [0x30aa],
    [0x30ab], [0x30ad], [0x30af], [0x30b1], [0x30b3], [0x30b5], [0x30b7], [0x30b9], [0x30bb], [0x30bd], [0x30bf],
    [0x30c1], [0x30c4], [0x30c6], [0x30c8]]), (0x32ea, #[[0x30d2], [0x30d5], [0x30d8], [0x30db]]),
  (0x32f3, #[[0x30e4], [0x30e6]]), (0x32ff, #[[0x4ee4, 0x548c], [0x30a2, 0x30d1, 0x30fc, 0x30c8],
    [0x30a2, 0x30eb, 0x30d5, 0x30a1], [0x30a2, 0x30f3, 0x30da, 0x30a2], [0x30a2, 0x30fc, 0x30eb],
    [0x30a4, 0x30cb, 0x30f3, 0x30b0], [0x30a4, 0x30f3, 0x30c1], [0x30a6, 0x30a9, 0x30f3],
    [0x30a8, 0x30b9, 0x30af, 0x30fc, 0x30c9], [0x30a8, 0x30fc, 0x30ab, 0x30fc], [0x30aa, 0x30f3, 0x30b9],
    [0x30aa, 0x30fc, 0x30e0], [0x30ab, 0x30a4, 0x30ea], [0x30ab, 0x30e9, 0x30c3, 0x30c8],
    [0x30ab, 0x30ed, 0x30ea, 0x30fc], [0x30ac, 0x30ed, 0x30f3], [0x30ac, 0x30f3, 0x30de], [0x30ae, 0x30ac],
    [0x30ae, 0x30cb, 0x30fc], [0x30ad, 0x30e5, 0x30ea, 0x30fc], [0x30ae, 0x30eb, 0x30c0, 0x30fc], [0x30ad, 0x30ed],
    [0x30ad, 0x30ed, 0x30b0, 0x30e9, 0x30e0], [0x30ad, 0x30ed, 0x30e1, 0x30fc, 0x30c8, 0x30eb],
    [0x30ad, 0x30ed, 0x30ef, 0x30c3, 0x30c8], [0x30b0, 0x30e9, 0x30e0], [0x30b0, 0x30e9, 0x30e0, 0x30c8, 0x30f3],
    [0x30af, 0x30eb, 0x30bc, 0x30a4, 0x30ed], [0x30af, 0x30ed, 0x30fc, 0x30cd], [0x30b1, 0x30fc, 0x30b9],
    [0x30b3, 0x30eb, 0x30ca], [0x30b3, 0x30fc, 0x30dd], [0x30b5, 0x30a4, 0x30af, 0x30eb],
    [0x30b5, 0x30f3, 0x30c1, 0x30fc, 0x30e0], [0x30b7, 0x30ea, 0x30f3, 0x30b0], [0x30bb, 0x30f3, 0x30c1],
    [0x30bb, 0x30f3, 0x30c8], [0x30c0, 0x30fc, 0x30b9], [0x30c7, 0x30b7], [0x30c9, 0x30eb], [0x30c8, 0x30f3],
    [0x30ca, 0x30ce], [0x30ce, 0x30c3, 0x30c8], [0x30cf, 0x30a4, 0x30c4], [0x30d1, 0x30fc, 0x30bb, 0x30f3, 0x30c8],
    [0x30d1, 0x30fc, 0x30c4], [0x30d0, 0x30fc, 0x30ec, 0x30eb], [0x30d4, 0x30a2, 0x30b9, 0x30c8, 0x30eb],
    [0x30d4, 0x30af, 0x30eb], [0x30d4, 0x30b3], [0x30d3, 0x30eb], [0x30d5, 0x30a1, 0x30e9, 0x30c3, 0x30c9],
    [0x30d5, 0x30a3, 0x30fc, 0x30c8], [0x30d6, 0x30c3, 0x30b7, 0x30a7, 0x30eb], [0x30d5, 0x30e9, 0x30f3],
    [0x30d8, 0x30af, 0x30bf, 0x30fc, 0x30eb], [0x30da, 0x30bd], [0x30da, 0x30cb, 0x30d2], [0x30d8, 0x30eb, 0x30c4],
    [0x30da, 0x30f3, 0x30b9], [0x30da, 0x30fc, 0x30b8], [0x30d9, 0x30fc, 0x30bf], [0x30dd, 0x30a4, 0x30f3, 0x30c8],
    [0x30dc, 0x30eb, 0x30c8]]), (0x333f, #[[0x30db, 0x30f3], [0x30dd, 0x30f3, 0x30c9], [0x30db, 0x30fc, 0x30eb],
    [0x30db, 0x30fc, 0x30f3], [0x30de, 0x30a4, 0x30af, 0x30ed], [0x30de, 0x30a4, 0x30eb], [0x30de, 0x30c3, 0x30cf],
    [0x30de, 0x30eb, 0x30af], [0x30de, 0x30f3, 0x30b7, 0x30e7, 0x30f3], [0x30df, 0x30af, 0x30ed, 0x30f3],
    [0x30df, 0x30ea], [0x30df, 0x30ea, 0x30d0, 0x30fc, 0x30eb], [0x30e1, 0x30ac], [0x30e1, 0x30ac, 0x30c8, 0x30f3],
    [0x30e1, 0x30fc, 0x30c8, 0x30eb], [0x30e4, 0x30fc, 0x30c9], [0x30e4, 0x30fc, 0x30eb], [0x30e6, 0x30a2, 0x30f3],
    [0x30ea, 0x30c3, 0x30c8, 0x30eb], [0x30ea, 0x30e9], [0x30eb, 0x30d4, 0x30fc], [0x30eb, 0x30fc, 0x30d6, 0x30eb],
    [0x30ec, 0x30e0], [0x30ec, 0x30f3, 0x30c8, 0x30b2, 0x30f3], [0x30ef, 0x30c3, 0x30c8], [0x30, 0x70b9],
    [0x31, 0x70b9], [0x32, 0x70b9], [0x33, 0x70b9], [0x34, 0x70b9], [0x35, 0x70b9], [0x36, 0x70b9], [0x37, 0x70b9],
    [0x38, 0x70b9], [0x39, 0x70b9], [0x31, 0x30, 0x70b9], [0x31, 0x31, 0x70b9], [0x31, 0x32, 0x70b9],
    [0x31, 0x33, 0x70b9], [0x31, 0x34, 0x70b9], [0x31, 0x35, 0x70b9], [0x31, 0x36, 0x70b9], [0x31, 0x37, 0x70b9],
    [0x31, 0x38, 0x70b9], [0x31, 0x39, 0x70b9], [0x32, 0x30, 0x70b9], [0x32, 0x31, 0x70b9], [0x32, 0x32, 0x70b9],
    [0x32, 0x33, 0x70b9], [0x32, 0x34, 0x70b9], [0x68, 0x70, 0x61], [0x64, 0x61], [0x61, 0x75], [0x62, 0x61, 0x72],
    [0x6f, 0x76], [0x70, 0x63], [0x64, 0x6d], [0x64, 0x6d, 0x32], [0x64, 0x6d, 0x33], [0x69, 0x75],
    [0x5e73, 0x6210], [0x662d, 0x548c], [0x5927, 0x6b63], [0x660e, 0x6cbb]]),
  (0x337f, #[[0x682a, 0x5f0f, 0x4f1a, 0x793e], [0x70, 0x61], [0x6e, 0x61], [0x3bc, 0x61], [0x6d, 0x61],
    [0x6b, 0x61], [0x6b, 0x62], [0x6d, 0x62], [0x67, 0x62], [0x63, 0x61, 0x6c], [0x6b, 0x63, 0x61, 0x6c],
    [0x70, 0x66], [0x6e, 0x66], [0x3bc, 0x66], [0x3bc, 0x67], [0x6d, 0x67], [0x6b, 0x67], [0x68, 0x7a],
    [0x6b, 0x68, 0x7a], [0x6d, 0x68, 0x7a], [0x67, 0x68, 0x7a], [0x74, 0x68, 0x7a], [0x3bc, 0x6c], [0x6d, 0x6c],
    [0x64, 0x6c], [0x6b, 0x6c], [0x66, 0x6d], [0x6e, 0x6d], [0x3bc, 0x6d], [0x6d, 0x6d], [0x63, 0x6d], [0x6b, 0x6d],
    [0x6d, 0x6d, 0x32], [0x63, 0x6d, 0x32], [0x6d, 0x32], [0x6b, 0x6d, 0x32], [0x6d, 0x6d, 0x33],
    [0x63, 0x6d, 0x33], [0x6d, 0x33], [0x6b, 0x6d, 0x33], [0x6d, 0x2215, 0x73], [0x6d, 0x2215, 0x73, 0x32],
    [0x70, 0x61], [0x6b, 0x70, 0x61], [0x6d, 0x70, 0x61], [0x67, 0x70, 0x61], [0x72, 0x61, 0x64],
    [0x72, 0x61, 0x64, 0x2215, 0x73], [0x72, 0x61, 0x64, 0x2215, 0x73, 0x32], [0x70, 0x73], [0x6e, 0x73],
    [0x3bc, 0x73], [0x6d, 0x73], [0x70, 0x76], [0x6e, 0x76], [0x3bc, 0x76], [0x6d, 0x76], [0x6b, 0x76],
    [0x6d, 0x76], [0x70, 0x77], [0x6e, 0x77], [0x3bc, 0x77], [0x6d, 0x77], [0x6b, 0x77]]), (0x33bf, #[[0x6d, 0x77],
    [0x6b, 0x3c9], [0x6d, 0x3c9]]), (0x33c3, #[[0x62, 0x71], [0x63, 0x63], [0x63, 0x64],
    [0x63, 0x2215, 0x6b, 0x67]]), (0x33c8, #[[0x64, 0x62], [0x67, 0x79], [0x68, 0x61], [0x68, 0x70], [0x69, 0x6e],
    [0x6b, 0x6b], [0x6b, 0x6d], [0x6b, 0x74], [0x6c, 0x6d], [0x6c, 0x6e], [0x6c, 0x6f, 0x67], [0x6c, 0x78],
    [0x6d, 0x62], [0x6d, 0x69, 0x6c], [0x6d, 0x6f, 0x6c], [0x70, 0x68]]), (0x33d9, #[[0x70, 0x70, 0x6d],
    [0x70, 0x72], [0x73, 0x72], [0x73, 0x76], [0x77, 0x62], [0x76, 0x2215, 0x6d], [0x61, 0x2215, 0x6d],
    [0x31, 0x65e5], [0x32, 0x65e5], [0x33, 0x65e5], [0x34, 0x65e5], [0x35, 0x65e5], [0x36, 0x65e5], [0x37, 0x65e5],
    [0x38, 0x65e5], [0x39, 0x65e5], [0x31, 0x30, 0x65e5], [0x31, 0x31, 0x65e5], [0x31, 0x32, 0x65e5],
    [0x31, 0x33, 0x65e5], [0x31, 0x34, 0x65e5], [0x31, 0x35, 0x65e5], [0x31, 0x36, 0x65e5], [0x31, 0x37, 0x65e5],
    [0x31, 0x38, 0x65e5], [0x31, 0x39, 0x65e5], [0x32, 0x30, 0x65e5], [0x32, 0x31, 0x65e5], [0x32, 0x32, 0x65e5],
    [0x32, 0x33, 0x65e5], [0x32, 0x34, 0x65e5], [0x32, 0x35, 0x65e5], [0x32, 0x36, 0x65e5], [0x32, 0x37, 0x65e5],
    [0x32, 0x38, 0x65e5], [0x32, 0x39, 0x65e5], [0x33, 0x30, 0x65e5], [0x33, 0x31, 0x65e5], [0x67, 0x61, 0x6c]]),
  (0xa69c, #[[0x44a], [0x44c]]), (0xa770, #[[0xa76f]]), (0xa7f1, #[[0x73], [0x63], [0x66], [0x71]]),
  (0xa7f8, #[[0x127], [0x153]]), (0xab5c, #[[0xa727], [0xab37], [0x26b], [0xab52]]), (0xab69, #[[0x28d]])]

/-- What ligatures, and letters that show their place in a word, stand for. -/
def ligatures : Array (Nat × Array (List Nat)) := #[
  (0xfb00, #[[0x66, 0x66], [0x66, 0x69], [0x66, 0x6c], [0x66, 0x66, 0x69], [0x66, 0x66, 0x6c], [0x73, 0x74],
    [0x73, 0x74]]), (0xfb13, #[[0x574, 0x576], [0x574, 0x565], [0x574, 0x56b], [0x57e, 0x576], [0x574, 0x56d]]),
  (0xfb20, #[[0x5e2], [0x5d0], [0x5d3], [0x5d4]]), (0xfb27, #[[0x5e8], [0x5ea], [0x2b]]), (0xfb4f, #[[0x5d0, 0x5dc],
    [0x671], [0x671], [0x67b], [0x67b], [0x67b], [0x67b], [0x67e], [0x67e], [0x67e], [0x67e], [0x680], [0x680],
    [0x680], [0x680], [0x67a], [0x67a], [0x67a], [0x67a], [0x67f], [0x67f], [0x67f], [0x67f], [0x679], [0x679],
    [0x679], [0x679], [0x6a4], [0x6a4], [0x6a4], [0x6a4], [0x6a6], [0x6a6], [0x6a6], [0x6a6], [0x684], [0x684],
    [0x684], [0x684], [0x683], [0x683], [0x683], [0x683], [0x686], [0x686], [0x686], [0x686], [0x687], [0x687],
    [0x687], [0x687], [0x68d], [0x68d], [0x68c], [0x68c], [0x68e], [0x68e], [0x688], [0x688], [0x698], [0x698],
    [0x691], [0x691], [0x6a9]]), (0xfb8f, #[[0x6a9], [0x6a9], [0x6a9], [0x6af], [0x6af], [0x6af], [0x6af], [0x6b3],
    [0x6b3], [0x6b3], [0x6b3], [0x6b1], [0x6b1], [0x6b1], [0x6b1], [0x6ba], [0x6ba], [0x6bb], [0x6bb], [0x6bb],
    [0x6bb], [0x6c0], [0x6c0], [0x6c1], [0x6c1], [0x6c1], [0x6c1], [0x6be], [0x6be], [0x6be], [0x6be], [0x6d2],
    [0x6d2], [0x6d3], [0x6d3]]), (0xfbd3, #[[0x6ad], [0x6ad], [0x6ad], [0x6ad], [0x6c7], [0x6c7], [0x6c6], [0x6c6],
    [0x6c8], [0x6c8], [0x6c7, 0x674], [0x6cb], [0x6cb], [0x6c5], [0x6c5], [0x6c9], [0x6c9], [0x6d0], [0x6d0],
    [0x6d0], [0x6d0], [0x649], [0x649], [0x626, 0x627], [0x626, 0x627], [0x626, 0x6d5], [0x626, 0x6d5],
    [0x626, 0x648], [0x626, 0x648], [0x626, 0x6c7], [0x626, 0x6c7], [0x626, 0x6c6], [0x626, 0x6c6], [0x626, 0x6c8],
    [0x626, 0x6c8], [0x626, 0x6d0], [0x626, 0x6d0], [0x626, 0x6d0], [0x626, 0x649], [0x626, 0x649], [0x626, 0x649],
    [0x6cc], [0x6cc], [0x6cc], [0x6cc], [0x626, 0x62c], [0x626, 0x62d], [0x626, 0x645], [0x626, 0x649],
    [0x626, 0x64a], [0x628, 0x62c], [0x628, 0x62d], [0x628, 0x62e], [0x628, 0x645], [0x628, 0x649], [0x628, 0x64a],
    [0x62a, 0x62c], [0x62a, 0x62d], [0x62a, 0x62e], [0x62a, 0x645], [0x62a, 0x649], [0x62a, 0x64a], [0x62b, 0x62c],
    [0x62b, 0x645]]), (0xfc13, #[[0x62b, 0x649], [0x62b, 0x64a], [0x62c, 0x62d], [0x62c, 0x645], [0x62d, 0x62c],
    [0x62d, 0x645], [0x62e, 0x62c], [0x62e, 0x62d], [0x62e, 0x645], [0x633, 0x62c], [0x633, 0x62d], [0x633, 0x62e],
    [0x633, 0x645], [0x635, 0x62d], [0x635, 0x645], [0x636, 0x62c], [0x636, 0x62d], [0x636, 0x62e], [0x636, 0x645],
    [0x637, 0x62d], [0x637, 0x645], [0x638, 0x645], [0x639, 0x62c], [0x639, 0x645], [0x63a, 0x62c], [0x63a, 0x645],
    [0x641, 0x62c], [0x641, 0x62d], [0x641, 0x62e], [0x641, 0x645], [0x641, 0x649], [0x641, 0x64a], [0x642, 0x62d],
    [0x642, 0x645], [0x642, 0x649], [0x642, 0x64a], [0x643, 0x627], [0x643, 0x62c], [0x643, 0x62d], [0x643, 0x62e],
    [0x643, 0x644], [0x643, 0x645], [0x643, 0x649], [0x643, 0x64a], [0x644, 0x62c], [0x644, 0x62d], [0x644, 0x62e],
    [0x644, 0x645], [0x644, 0x649], [0x644, 0x64a], [0x645, 0x62c], [0x645, 0x62d], [0x645, 0x62e], [0x645, 0x645],
    [0x645, 0x649], [0x645, 0x64a], [0x646, 0x62c], [0x646, 0x62d], [0x646, 0x62e], [0x646, 0x645], [0x646, 0x649],
    [0x646, 0x64a], [0x647, 0x62c], [0x647, 0x645]]), (0xfc53, #[[0x647, 0x649], [0x647, 0x64a], [0x64a, 0x62c],
    [0x64a, 0x62d], [0x64a, 0x62e], [0x64a, 0x645], [0x64a, 0x649], [0x64a, 0x64a], [0x630, 0x670], [0x631, 0x670],
    [0x649, 0x670], [0x20, 0x64c, 0x651], [0x20, 0x64d, 0x651], [0x20, 0x64e, 0x651], [0x20, 0x64f, 0x651],
    [0x20, 0x650, 0x651], [0x20, 0x651, 0x670], [0x626, 0x631], [0x626, 0x632], [0x626, 0x645], [0x626, 0x646],
    [0x626, 0x649], [0x626, 0x64a], [0x628, 0x631], [0x628, 0x632], [0x628, 0x645], [0x628, 0x646], [0x628, 0x649],
    [0x628, 0x64a], [0x62a, 0x631], [0x62a, 0x632], [0x62a, 0x645], [0x62a, 0x646], [0x62a, 0x649], [0x62a, 0x64a],
    [0x62b, 0x631], [0x62b, 0x632], [0x62b, 0x645], [0x62b, 0x646], [0x62b, 0x649], [0x62b, 0x64a], [0x641, 0x649],
    [0x641, 0x64a], [0x642, 0x649], [0x642, 0x64a], [0x643, 0x627], [0x643, 0x644], [0x643, 0x645], [0x643, 0x649],
    [0x643, 0x64a], [0x644, 0x645], [0x644, 0x649], [0x644, 0x64a], [0x645, 0x627], [0x645, 0x645], [0x646, 0x631],
    [0x646, 0x632], [0x646, 0x645], [0x646, 0x646], [0x646, 0x649], [0x646, 0x64a], [0x649, 0x670], [0x64a, 0x631],
    [0x64a, 0x632]]), (0xfc93, #[[0x64a, 0x645], [0x64a, 0x646], [0x64a, 0x649], [0x64a, 0x64a], [0x626, 0x62c],
    [0x626, 0x62d], [0x626, 0x62e], [0x626, 0x645], [0x626, 0x647], [0x628, 0x62c], [0x628, 0x62d], [0x628, 0x62e],
    [0x628, 0x645], [0x628, 0x647], [0x62a, 0x62c], [0x62a, 0x62d], [0x62a, 0x62e], [0x62a, 0x645], [0x62a, 0x647],
    [0x62b, 0x645], [0x62c, 0x62d], [0x62c, 0x645], [0x62d, 0x62c], [0x62d, 0x645], [0x62e, 0x62c], [0x62e, 0x645],
    [0x633, 0x62c], [0x633, 0x62d], [0x633, 0x62e], [0x633, 0x645], [0x635, 0x62d], [0x635, 0x62e], [0x635, 0x645],
    [0x636, 0x62c], [0x636, 0x62d], [0x636, 0x62e], [0x636, 0x645], [0x637, 0x62d], [0x638, 0x645], [0x639, 0x62c],
    [0x639, 0x645], [0x63a, 0x62c], [0x63a, 0x645], [0x641, 0x62c], [0x641, 0x62d], [0x641, 0x62e], [0x641, 0x645],
    [0x642, 0x62d], [0x642, 0x645], [0x643, 0x62c], [0x643, 0x62d], [0x643, 0x62e], [0x643, 0x644], [0x643, 0x645],
    [0x644, 0x62c], [0x644, 0x62d], [0x644, 0x62e], [0x644, 0x645], [0x644, 0x647], [0x645, 0x62c], [0x645, 0x62d],
    [0x645, 0x62e], [0x645, 0x645], [0x646, 0x62c]]), (0xfcd3, #[[0x646, 0x62d], [0x646, 0x62e], [0x646, 0x645],
    [0x646, 0x647], [0x647, 0x62c], [0x647, 0x645], [0x647, 0x670], [0x64a, 0x62c], [0x64a, 0x62d], [0x64a, 0x62e],
    [0x64a, 0x645], [0x64a, 0x647], [0x626, 0x645], [0x626, 0x647], [0x628, 0x645], [0x628, 0x647], [0x62a, 0x645],
    [0x62a, 0x647], [0x62b, 0x645], [0x62b, 0x647], [0x633, 0x645], [0x633, 0x647], [0x634, 0x645], [0x634, 0x647],
    [0x643, 0x644], [0x643, 0x645], [0x644, 0x645], [0x646, 0x645], [0x646, 0x647], [0x64a, 0x645], [0x64a, 0x647],
    [0x640, 0x64e, 0x651], [0x640, 0x64f, 0x651], [0x640, 0x650, 0x651], [0x637, 0x649], [0x637, 0x64a],
    [0x639, 0x649], [0x639, 0x64a], [0x63a, 0x649], [0x63a, 0x64a], [0x633, 0x649], [0x633, 0x64a], [0x634, 0x649],
    [0x634, 0x64a], [0x62d, 0x649], [0x62d, 0x64a], [0x62c, 0x649], [0x62c, 0x64a], [0x62e, 0x649], [0x62e, 0x64a],
    [0x635, 0x649], [0x635, 0x64a], [0x636, 0x649], [0x636, 0x64a], [0x634, 0x62c], [0x634, 0x62d], [0x634, 0x62e],
    [0x634, 0x645], [0x634, 0x631], [0x633, 0x631], [0x635, 0x631], [0x636, 0x631], [0x637, 0x649],
    [0x637, 0x64a]]), (0xfd13, #[[0x639, 0x649], [0x639, 0x64a], [0x63a, 0x649], [0x63a, 0x64a], [0x633, 0x649],
    [0x633, 0x64a], [0x634, 0x649], [0x634, 0x64a], [0x62d, 0x649], [0x62d, 0x64a], [0x62c, 0x649], [0x62c, 0x64a],
    [0x62e, 0x649], [0x62e, 0x64a], [0x635, 0x649], [0x635, 0x64a], [0x636, 0x649], [0x636, 0x64a], [0x634, 0x62c],
    [0x634, 0x62d], [0x634, 0x62e], [0x634, 0x645], [0x634, 0x631], [0x633, 0x631], [0x635, 0x631], [0x636, 0x631],
    [0x634, 0x62c], [0x634, 0x62d], [0x634, 0x62e], [0x634, 0x645], [0x633, 0x647], [0x634, 0x647], [0x637, 0x645],
    [0x633, 0x62c], [0x633, 0x62d], [0x633, 0x62e], [0x634, 0x62c], [0x634, 0x62d], [0x634, 0x62e], [0x637, 0x645],
    [0x638, 0x645], [0x627, 0x64b], [0x627, 0x64b]]), (0xfd50, #[[0x62a, 0x62c, 0x645], [0x62a, 0x62d, 0x62c],
    [0x62a, 0x62d, 0x62c], [0x62a, 0x62d, 0x645], [0x62a, 0x62e, 0x645], [0x62a, 0x645, 0x62c],
    [0x62a, 0x645, 0x62d], [0x62a, 0x645, 0x62e], [0x62c, 0x645, 0x62d], [0x62c, 0x645, 0x62d],
    [0x62d, 0x645, 0x64a], [0x62d, 0x645, 0x649], [0x633, 0x62d, 0x62c], [0x633, 0x62c, 0x62d],
    [0x633, 0x62c, 0x649], [0x633, 0x645, 0x62d], [0x633, 0x645, 0x62d], [0x633, 0x645, 0x62c],
    [0x633, 0x645, 0x645], [0x633, 0x645, 0x645], [0x635, 0x62d, 0x62d], [0x635, 0x62d, 0x62d],
    [0x635, 0x645, 0x645], [0x634, 0x62d, 0x645], [0x634, 0x62d, 0x645], [0x634, 0x62c, 0x64a],
    [0x634, 0x645, 0x62e], [0x634, 0x645, 0x62e], [0x634, 0x645, 0x645], [0x634, 0x645, 0x645],
    [0x636, 0x62d, 0x649], [0x636, 0x62e, 0x645], [0x636, 0x62e, 0x645], [0x637, 0x645, 0x62d],
    [0x637, 0x645, 0x62d], [0x637, 0x645, 0x645], [0x637, 0x645, 0x64a], [0x639, 0x62c, 0x645],
    [0x639, 0x645, 0x645], [0x639, 0x645, 0x645], [0x639, 0x645, 0x649], [0x63a, 0x645, 0x645],
    [0x63a, 0x645, 0x64a], [0x63a, 0x645, 0x649], [0x641, 0x62e, 0x645], [0x641, 0x62e, 0x645],
    [0x642, 0x645, 0x62d], [0x642, 0x645, 0x645], [0x644, 0x62d, 0x645], [0x644, 0x62d, 0x64a],
    [0x644, 0x62d, 0x649], [0x644, 0x62c, 0x62c], [0x644, 0x62c, 0x62c], [0x644, 0x62e, 0x645],
    [0x644, 0x62e, 0x645], [0x644, 0x645, 0x62d], [0x644, 0x645, 0x62d], [0x645, 0x62d, 0x62c],
    [0x645, 0x62d, 0x645], [0x645, 0x62d, 0x64a], [0x645, 0x62c, 0x62d], [0x645, 0x62c, 0x645],
    [0x645, 0x62e, 0x62c], [0x645, 0x62e, 0x645]]), (0xfd92, #[[0x645, 0x62c, 0x62e], [0x647, 0x645, 0x62c],
    [0x647, 0x645, 0x645], [0x646, 0x62d, 0x645], [0x646, 0x62d, 0x649], [0x646, 0x62c, 0x645],
    [0x646, 0x62c, 0x645], [0x646, 0x62c, 0x649], [0x646, 0x645, 0x64a], [0x646, 0x645, 0x649],
    [0x64a, 0x645, 0x645], [0x64a, 0x645, 0x645], [0x628, 0x62e, 0x64a], [0x62a, 0x62c, 0x64a],
    [0x62a, 0x62c, 0x649], [0x62a, 0x62e, 0x64a], [0x62a, 0x62e, 0x649], [0x62a, 0x645, 0x64a],
    [0x62a, 0x645, 0x649], [0x62c, 0x645, 0x64a], [0x62c, 0x62d, 0x649], [0x62c, 0x645, 0x649],
    [0x633, 0x62e, 0x649], [0x635, 0x62d, 0x64a], [0x634, 0x62d, 0x64a], [0x636, 0x62d, 0x64a],
    [0x644, 0x62c, 0x64a], [0x644, 0x645, 0x64a], [0x64a, 0x62d, 0x64a], [0x64a, 0x62c, 0x64a],
    [0x64a, 0x645, 0x64a], [0x645, 0x645, 0x64a], [0x642, 0x645, 0x64a], [0x646, 0x62d, 0x64a],
    [0x642, 0x645, 0x62d], [0x644, 0x62d, 0x645], [0x639, 0x645, 0x64a], [0x643, 0x645, 0x64a],
    [0x646, 0x62c, 0x62d], [0x645, 0x62e, 0x64a], [0x644, 0x62c, 0x645], [0x643, 0x645, 0x645],
    [0x644, 0x62c, 0x645], [0x646, 0x62c, 0x62d], [0x62c, 0x62d, 0x64a], [0x62d, 0x62c, 0x64a],
    [0x645, 0x62c, 0x64a], [0x641, 0x645, 0x64a], [0x628, 0x62d, 0x64a], [0x643, 0x645, 0x645],
    [0x639, 0x62c, 0x645], [0x635, 0x645, 0x645], [0x633, 0x62e, 0x64a], [0x646, 0x62c, 0x64a]]),
  (0xfdf0, #[[0x635, 0x644, 0x6d2], [0x642, 0x644, 0x6d2], [0x627, 0x644, 0x644, 0x647],
    [0x627, 0x643, 0x628, 0x631], [0x645, 0x62d, 0x645, 0x62f], [0x635, 0x644, 0x639, 0x645],
    [0x631, 0x633, 0x648, 0x644], [0x639, 0x644, 0x64a, 0x647], [0x648, 0x633, 0x644, 0x645], [0x635, 0x644, 0x649],
    [0x635, 0x644, 0x649, 0x20, 0x627, 0x644, 0x644, 0x647, 0x20, 0x639, 0x644, 0x64a, 0x647, 0x20, 0x648, 0x633, 0x644, 0x645],
    [0x62c, 0x644, 0x20, 0x62c, 0x644, 0x627, 0x644, 0x647], [0x631, 0x6cc, 0x627, 0x644]]), (0xfe10, #[[0x2c],
    [0x3001]]), (0xfe13, #[[0x3a], [0x3b], [0x21], [0x3f], [0x3016], [0x3017]]), (0xfe31, #[[0x2014], [0x2013],
    [0x5f], [0x5f], [0x28], [0x29], [0x7b], [0x7d], [0x3014], [0x3015], [0x3010], [0x3011], [0x300a], [0x300b],
    [0x3008], [0x3009]]), (0xfe47, #[[0x5b], [0x5d], [0x20, 0x305], [0x20, 0x305], [0x20, 0x305], [0x20, 0x305],
    [0x5f], [0x5f], [0x5f], [0x2c], [0x3001]]), (0xfe54, #[[0x3b], [0x3a], [0x3f], [0x21], [0x2014], [0x28], [0x29],
    [0x7b], [0x7d], [0x3014], [0x3015], [0x23], [0x26], [0x2a], [0x2b], [0x2d], [0x3c], [0x3e], [0x3d]]),
  (0xfe68, #[[0x5c], [0x24], [0x25], [0x40]]), (0xfe70, #[[0x20, 0x64b], [0x640, 0x64b], [0x20, 0x64c]]),
  (0xfe74, #[[0x20, 0x64d]]), (0xfe76, #[[0x20, 0x64e], [0x640, 0x64e], [0x20, 0x64f], [0x640, 0x64f],
    [0x20, 0x650], [0x640, 0x650], [0x20, 0x651], [0x640, 0x651], [0x20, 0x652], [0x640, 0x652], [0x621], [0x622],
    [0x622], [0x623], [0x623], [0x624], [0x624], [0x625], [0x625], [0x626], [0x626], [0x626], [0x626], [0x627],
    [0x627], [0x628], [0x628], [0x628], [0x628], [0x629], [0x629], [0x62a], [0x62a], [0x62a], [0x62a], [0x62b],
    [0x62b], [0x62b], [0x62b], [0x62c], [0x62c], [0x62c], [0x62c], [0x62d], [0x62d], [0x62d], [0x62d], [0x62e],
    [0x62e], [0x62e], [0x62e], [0x62f], [0x62f], [0x630], [0x630], [0x631], [0x631], [0x632], [0x632], [0x633],
    [0x633], [0x633], [0x633], [0x634]]), (0xfeb6, #[[0x634], [0x634], [0x634], [0x635], [0x635], [0x635], [0x635],
    [0x636], [0x636], [0x636], [0x636], [0x637], [0x637], [0x637], [0x637], [0x638], [0x638], [0x638], [0x638],
    [0x639], [0x639], [0x639], [0x639], [0x63a], [0x63a], [0x63a], [0x63a], [0x641], [0x641], [0x641], [0x641],
    [0x642], [0x642], [0x642], [0x642], [0x643], [0x643], [0x643], [0x643], [0x644], [0x644], [0x644], [0x644],
    [0x645], [0x645], [0x645], [0x645], [0x646], [0x646], [0x646], [0x646], [0x647], [0x647], [0x647], [0x647],
    [0x648], [0x648], [0x649], [0x649], [0x64a], [0x64a], [0x64a], [0x64a], [0x644, 0x622]]),
  (0xfef6, #[[0x644, 0x622], [0x644, 0x623], [0x644, 0x623], [0x644, 0x625], [0x644, 0x625], [0x644, 0x627],
    [0x644, 0x627]]), (0xff5f, #[[0x2985], [0x2986], [0x2e], [0x300c], [0x300d], [0x3001], [0x30fb], [0x30f2],
    [0x30a1], [0x30a3], [0x30a5], [0x30a7], [0x30a9], [0x30e3], [0x30e5], [0x30e7], [0x30c3], [0x30fc], [0x30a2],
    [0x30a4], [0x30a6], [0x30a8], [0x30aa], [0x30ab], [0x30ad], [0x30af], [0x30b1], [0x30b3], [0x30b5], [0x30b7],
    [0x30b9], [0x30bb], [0x30bd], [0x30bf], [0x30c1], [0x30c4], [0x30c6], [0x30c8]]), (0xff8b, #[[0x30d2], [0x30d5],
    [0x30d8], [0x30db]]), (0xff94, #[[0x30e4], [0x30e6]]), (0xff9c, #[[0x30ef], [0x30f3], [0x3099], [0x309a]]),
  (0xffa1, #[[0x1100], [0x1101], [0x11aa], [0x1102], [0x11ac], [0x11ad]]), (0xffb0, #[[0x111a]]),
  (0xffb4, #[[0x1121]]), (0xffe0, #[[0xa2], [0xa3], [0xac], [0x20, 0x304], [0xa6], [0xa5], [0x20a9]]),
  (0xffe8, #[[0x2502]]), (0xffed, #[[0x25a0], [0x25cb]])]

/-- What letters used as symbols, and others beyond the first plane, stand for. -/
def symbols : Array (Nat × Array (List Nat)) := #[
  (0x10781, #[[0x2d0], [0x2d1], [0xe6], [0x299], [0x253]]), (0x10787, #[[0x2a3], [0xab66], [0x2a5], [0x2a4],
    [0x256], [0x257], [0x1d91], [0x258], [0x25e], [0x2a9], [0x264], [0x262], [0x260], [0x29b], [0x127], [0x29c],
    [0x267], [0x284], [0x2aa], [0x2ab], [0x26c], [0x1df04], [0xa78e], [0x26e], [0x1df05], [0x28e], [0x1df06],
    [0xf8], [0x276], [0x277], [0x71], [0x27a], [0x1df08], [0x27d], [0x27e], [0x280], [0x2a8], [0x2a6], [0xab67],
    [0x2a7], [0x288], [0x2c71]]), (0x107b2, #[[0x28f], [0x2a1], [0x2a2], [0x298]]), (0x107b9, #[[0x1df0a],
    [0x1df1e]]), (0x1d49c, #[[0x61]]), (0x1d49e, #[[0x63], [0x64]]), (0x1d4a2, #[[0x67]]), (0x1d4a5, #[[0x6a],
    [0x6b]]), (0x1d4bb, #[[0x66]]), (0x1d504, #[[0x61], [0x62]]), (0x1d538, #[[0x61], [0x62]]),
  (0x1d546, #[[0x6f]]), (0x1d6a4, #[[0x131], [0x237]]), (0x1d6b9, #[[0x3b8]]), (0x1d6c1, #[[0x2207]]),
  (0x1d6d3, #[[0x3c3]]), (0x1d6db, #[[0x2202], [0x3b5], [0x3b8], [0x3ba], [0x3c6], [0x3c1], [0x3c0]]),
  (0x1d6f3, #[[0x3b8]]), (0x1d6fb, #[[0x2207]]), (0x1d70d, #[[0x3c3]]), (0x1d715, #[[0x2202], [0x3b5], [0x3b8],
    [0x3ba], [0x3c6], [0x3c1], [0x3c0]]), (0x1d72d, #[[0x3b8]]), (0x1d735, #[[0x2207]]), (0x1d747, #[[0x3c3]]),
  (0x1d74f, #[[0x2202], [0x3b5], [0x3b8], [0x3ba], [0x3c6], [0x3c1], [0x3c0]]), (0x1d767, #[[0x3b8]]),
  (0x1d76f, #[[0x2207]]), (0x1d781, #[[0x3c3]]), (0x1d789, #[[0x2202], [0x3b5], [0x3b8], [0x3ba], [0x3c6], [0x3c1],
    [0x3c0]]), (0x1d7a1, #[[0x3b8]]), (0x1d7a9, #[[0x2207]]), (0x1d7bb, #[[0x3c3]]), (0x1d7c3, #[[0x2202], [0x3b5],
    [0x3b8], [0x3ba], [0x3c6], [0x3c1], [0x3c0], [0x3dd], [0x3dd]]), (0x1e047, #[[0x44b], [0x44d], [0x44e],
    [0xa689], [0x4d9], [0x456], [0x458], [0x4e9], [0x4af], [0x4cf]]), (0x1e05a, #[[0x43a], [0x43b], [0x43e],
    [0x43f], [0x441]]), (0x1e065, #[[0x44a], [0x44b], [0x491], [0x456], [0x455], [0x45f], [0x4ab], [0xa651],
    [0x4b1]]), (0x1ee00, #[[0x627], [0x628], [0x62c], [0x62f]]), (0x1ee05, #[[0x648], [0x632], [0x62d], [0x637],
    [0x64a]]), (0x1ee0e, #[[0x633], [0x639], [0x641], [0x635], [0x642], [0x631], [0x634], [0x62a], [0x62b], [0x62e],
    [0x630], [0x636], [0x638], [0x63a], [0x66e], [0x6ba], [0x6a1], [0x66f]]), (0x1ee21, #[[0x628], [0x62c]]),
  (0x1ee24, #[[0x647]]), (0x1ee27, #[[0x62d]]), (0x1ee29, #[[0x64a]]), (0x1ee2e, #[[0x633], [0x639], [0x641],
    [0x635], [0x642]]), (0x1ee34, #[[0x634], [0x62a], [0x62b], [0x62e]]), (0x1ee39, #[[0x636]]),
  (0x1ee3b, #[[0x63a]]), (0x1ee42, #[[0x62c]]), (0x1ee47, #[[0x62d]]), (0x1ee49, #[[0x64a]]), (0x1ee4b, #[[0x644]]),
  (0x1ee4d, #[[0x646], [0x633], [0x639]]), (0x1ee51, #[[0x635], [0x642]]), (0x1ee54, #[[0x634]]),
  (0x1ee57, #[[0x62e]]), (0x1ee59, #[[0x636]]), (0x1ee5b, #[[0x63a]]), (0x1ee5d, #[[0x6ba]]), (0x1ee5f, #[[0x66f]]),
  (0x1ee61, #[[0x628], [0x62c]]), (0x1ee64, #[[0x647]]), (0x1ee67, #[[0x62d], [0x637], [0x64a], [0x643]]),
  (0x1ee6c, #[[0x645], [0x646], [0x633], [0x639], [0x641], [0x635], [0x642]]), (0x1ee74, #[[0x634], [0x62a],
    [0x62b], [0x62e]]), (0x1ee79, #[[0x636], [0x638], [0x63a], [0x66e]]), (0x1ee7e, #[[0x6a1]]),
  (0x1ee80, #[[0x627], [0x628], [0x62c], [0x62f], [0x647], [0x648], [0x632], [0x62d], [0x637], [0x64a]]),
  (0x1ee8e, #[[0x633], [0x639], [0x641], [0x635], [0x642], [0x631], [0x634], [0x62a], [0x62b], [0x62e], [0x630],
    [0x636], [0x638], [0x63a]]), (0x1eea1, #[[0x628], [0x62c], [0x62f]]), (0x1eea5, #[[0x648], [0x632], [0x62d],
    [0x637], [0x64a]]), (0x1eeae, #[[0x633], [0x639], [0x641], [0x635], [0x642], [0x631], [0x634], [0x62a], [0x62b],
    [0x62e], [0x630], [0x636], [0x638], [0x63a]]), (0x1f101, #[[0x30, 0x2c], [0x31, 0x2c], [0x32, 0x2c],
    [0x33, 0x2c], [0x34, 0x2c], [0x35, 0x2c], [0x36, 0x2c], [0x37, 0x2c], [0x38, 0x2c], [0x39, 0x2c]]),
  (0x1f110, #[[0x28, 0x61, 0x29], [0x28, 0x62, 0x29], [0x28, 0x63, 0x29], [0x28, 0x64, 0x29], [0x28, 0x65, 0x29],
    [0x28, 0x66, 0x29], [0x28, 0x67, 0x29], [0x28, 0x68, 0x29], [0x28, 0x69, 0x29], [0x28, 0x6a, 0x29],
    [0x28, 0x6b, 0x29], [0x28, 0x6c, 0x29], [0x28, 0x6d, 0x29], [0x28, 0x6e, 0x29], [0x28, 0x6f, 0x29],
    [0x28, 0x70, 0x29], [0x28, 0x71, 0x29], [0x28, 0x72, 0x29], [0x28, 0x73, 0x29], [0x28, 0x74, 0x29],
    [0x28, 0x75, 0x29], [0x28, 0x76, 0x29], [0x28, 0x77, 0x29], [0x28, 0x78, 0x29], [0x28, 0x79, 0x29],
    [0x28, 0x7a, 0x29], [0x3014, 0x73, 0x3015], [0x63], [0x72], [0x63, 0x64], [0x77, 0x7a]]),
  (0x1f14a, #[[0x68, 0x76], [0x6d, 0x76], [0x73, 0x64], [0x73, 0x73], [0x70, 0x70, 0x76], [0x77, 0x63]]),
  (0x1f16a, #[[0x6d, 0x63], [0x6d, 0x64], [0x6d, 0x72]]), (0x1f190, #[[0x64, 0x6a]]), (0x1f200, #[[0x307b, 0x304b],
    [0x30b3, 0x30b3], [0x30b5]]), (0x1f210, #[[0x624b], [0x5b57], [0x53cc], [0x30c7], [0x4e8c], [0x591a], [0x89e3],
    [0x5929], [0x4ea4], [0x6620], [0x7121], [0x6599], [0x524d], [0x5f8c], [0x518d], [0x65b0], [0x521d], [0x7d42],
    [0x751f], [0x8ca9], [0x58f0], [0x5439], [0x6f14], [0x6295], [0x6355], [0x4e00], [0x4e09], [0x904a], [0x5de6],
    [0x4e2d], [0x53f3], [0x6307], [0x8d70], [0x6253], [0x7981], [0x7a7a], [0x5408], [0x6e80], [0x6709], [0x6708],
    [0x7533], [0x5272], [0x55b6], [0x914d]]), (0x1f240, #[[0x3014, 0x672c, 0x3015], [0x3014, 0x4e09, 0x3015],
    [0x3014, 0x4e8c, 0x3015], [0x3014, 0x5b89, 0x3015], [0x3014, 0x70b9, 0x3015], [0x3014, 0x6253, 0x3015],
    [0x3014, 0x76d7, 0x3015], [0x3014, 0x52dd, 0x3015], [0x3014, 0x6557, 0x3015]]), (0x1f250, #[[0x5f97],
    [0x53ef]])]

/-- What single code points stand for. -/
def expansions : Array (Nat × Array (List Nat)) := letters ++ squares ++ ligatures ++ symbols

/-- The characters that a character stands for, up to equivalence. -/
def mapped (c : Char) : Text :=
  match Text.listed? expansions c.toNat, Text.shifted? runs c.toNat with
  | some ns, _ => ns.map Char.ofNat
  | none, some n => [Char.ofNat n]
  | none, none => Text.Case.mapChar Text.Case.lowerExpansions Text.Case.lowerRuns c

end PageHarvest.Url.Domain
