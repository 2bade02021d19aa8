/-
Case mappings of Unicode 14. A row `61-7a/1:-20` moves every first, second, ... code point of a range by
a distance; a row `df:53.53` gives one code point several images.
-/
import BadgeEngine.Text.Ranges

namespace BadgeEngine.Text

/-- upper case of one code point by one code point -/
def upperRuns : String :=
  "61-7a/1:-20 b5-b5/1:+2e7 e0-f6/1:-20 f8-fe/1:-20 ff-ff/1:+79 101-12f/2:-1 131-131/1:-e8
   133-137/2:-1 13a-148/2:-1 14b-177/2:-1 17a-17e/2:-1 17f-17f/1:-12c 180-180/1:+c3 183-185/2:-1
   188-188/1:-1 18c-18c/1:-1 192-192/1:-1 195-195/1:+61 199-199/1:-1 19a-19a/1:+a3 19e-19e/1:+82
   1a1-1a5/2:-1 1a8-1a8/1:-1 1ad-1ad/1:-1 1b0-1b0/1:-1 1b4-1b6/2:-1 1b9-1b9/1:-1 1bd-1bd/1:-1
   1bf-1bf/1:+38 1c5-1c5/1:-1 1c6-1c6/1:-2 1c8-1c8/1:-1 1c9-1c9/1:-2 1cb-1cb/1:-1 1cc-1cc/1:-2
   1ce-1dc/2:-1 1dd-1dd/1:-4f 1df-1ef/2:-1 1f2-1f2/1:-1 1f3-1f3/1:-2 1f5-1f5/1:-1 1f9-21f/2:-1
   223-233/2:-1 23c-23c/1:-1 23f-240/1:+2a3f 242-242/1:-1 247-24f/2:-1 250-250/1:+2a1f
   251-251/1:+2a1c 252-252/1:+2a1e 253-253/1:-d2 254-254/1:-ce 256-257/1:-cd 259-259/1:-ca
   25b-25b/1:-cb 25c-25c/1:+a54f 260-260/1:-cd 261-261/1:+a54b 263-263/1:-cf 265-265/1:+a528
   266-266/1:+a544 268-268/1:-d1 269-269/1:-d3 26a-26a/1:+a544 26b-26b/1:+29f7 26c-26c/1:+a541
   26f-26f/1:-d3 271-271/1:+29fd 272-272/1:-d5 275-275/1:-d6 27d-27d/1:+29e7 280-280/1:-da
   282-282/1:+a543 283-283/1:-da 287-287/1:+a52a 288-288/1:-da 289-289/1:-45 28a-28b/1:-d9
   28c-28c/1:-47 292-292/1:-db 29d-29d/1:+a515 29e-29e/1:+a512 345-345/1:+54 371-373/2:-1
   377-377/1:-1 37b-37d/1:+82 3ac-3ac/1:-26 3ad-3af/1:-25 3b1-3c1/1:-20 3c2-3c2/1:-1f
   3c3-3cb/1:-20 3cc-3cc/1:-40 3cd-3ce/1:-3f 3d0-3d0/1:-3e 3d1-3d1/1:-39 3d5-3d5/1:-2f
   3d6-3d6/1:-36 3d7-3d7/1:-8 3d9-3ef/2:-1 3f0-3f0/1:-56 3f1-3f1/1:-50 3f2-3f2/1:+7 3f3-3f3/1:-74
   3f5-3f5/1:-60 3f8-3f8/1:-1 3fb-3fb/1:-1 430-44f/1:-20 450-45f/1:-50 461-481/2:-1 48b-4bf/2:-1
   4c2-4ce/2:-1 4cf-4cf/1:-f 4d1-52f/2:-1 561-586/1:-30 10d0-10fa/1:+bc0 10fd-10ff/1:+bc0
   13f8-13fd/1:-8 1c80-1c80/1:-186e 1c81-1c81/1:-186d 1c82-1c82/1:-1864 1c83-1c84/1:-1862
   1c85-1c85/1:-1863 1c86-1c86/1:-185c 1c87-1c87/1:-1825 1c88-1c88/1:+89c2 1d79-1d79/1:+8a04
   1d7d-1d7d/1:+ee6 1d8e-1d8e/1:+8a38 1e01-1e95/2:-1 1e9b-1e9b/1:-3b 1ea1-1eff/2:-1 1f00-1f07/1:+8
   1f10-1f15/1:+8 1f20-1f27/1:+8 1f30-1f37/1:+8 1f40-1f45/1:+8 1f51-1f57/2:+8 1f60-1f67/1:+8
   1f70-1f71/1:+4a 1f72-1f75/1:+56 1f76-1f77/1:+64 1f78-1f79/1:+80 1f7a-1f7b/1:+70 1f7c-1f7d/1:+7e
   1fb0-1fb1/1:+8 1fbe-1fbe/1:-1c25 1fd0-1fd1/1:+8 1fe0-1fe1/1:+8 1fe5-1fe5/1:+7 214e-214e/1:-1c
   2170-217f/1:-10 2184-2184/1:-1 24d0-24e9/1:-1a 2c30-2c5f/1:-30 2c61-2c61/1:-1 2c65-2c65/1:-2a2b
   2c66-2c66/1:-2a28 2c68-2c6c/2:-1 2c73-2c73/1:-1 2c76-2c76/1:-1 2c81-2ce3/2:-1 2cec-2cee/2:-1
   2cf3-2cf3/1:-1 2d00-2d25/1:-1c60 2d27-2d27/1:-1c60 2d2d-2d2d/1:-1c60 a641-a66d/2:-1
   a681-a69b/2:-1 a723-a72f/2:-1 a733-a76f/2:-1 a77a-a77c/2:-1 a77f-a787/2:-1 a78c-a78c/1:-1
   a791-a793/2:-1 a794-a794/1:+30 a797-a7a9/2:-1 a7b5-a7c3/2:-1 a7c8-a7ca/2:-1 a7d1-a7d1/1:-1
   a7d7-a7d9/2:-1 a7f6-a7f6/1:-1 ab53-ab53/1:-3a0 ab70-abbf/1:-97d0 ff41-ff5a/1:-20
   10428-1044f/1:-28 104d8-104fb/1:-28 10597-105a1/1:-27 105a3-105b1/1:-27 105b3-105b9/1:-27
   105bb-105bc/1:-27 10cc0-10cf2/1:-40 118c0-118df/1:-20 16e60-16e7f/1:-20 1e922-1e943/1:-22"

/-- upper case of one code point by several -/
def upperSpecial : String :=
  "df:53.53 149:2bc.4e 1f0:4a.30c 390:399.308.301 3b0:3a5.308.301 587:535.552 1e96:48.331
   1e97:54.308 1e98:57.30a 1e99:59.30a 1e9a:41.2be 1f50:3a5.313 1f52:3a5.313.300 1f54:3a5.313.301
   1f56:3a5.313.342 1f80:1f08.399 1f81:1f09.399 1f82:1f0a.399 1f83:1f0b.399 1f84:1f0c.399
   1f85:1f0d.399 1f86:1f0e.399 1f87:1f0f.399 1f88:1f08.399 1f89:1f09.399 1f8a:1f0a.399
   1f8b:1f0b.399 1f8c:1f0c.399 1f8d:1f0d.399 1f8e:1f0e.399 1f8f:1f0f.399 1f90:1f28.399
   1f91:1f29.399 1f92:1f2a.399 1f93:1f2b.399 1f94:1f2c.399 1f95:1f2d.399 1f96:1f2e.399
   1f97:1f2f.399 1f98:1f28.399 1f99:1f29.399 1f9a:1f2a.399 1f9b:1f2b.399 1f9c:1f2c.399
   1f9d:1f2d.399 1f9e:1f2e.399 1f9f:1f2f.399 1fa0:1f68.399 1fa1:1f69.399 1fa2:1f6a.399
   1fa3:1f6b.399 1fa4:1f6c.399 1fa5:1f6d.399 1fa6:1f6e.399 1fa7:1f6f.399 1fa8:1f68.399
   1fa9:1f69.399 1faa:1f6a.399 1fab:1f6b.399 1fac:1f6c.399 1fad:1f6d.399 1fae:1f6e.399
   1faf:1f6f.399 1fb2:1fba.399 1fb3:391.399 1fb4:386.399 1fb6:391.342 1fb7:391.342.399
   1fbc:391.399 1fc2:1fca.399 1fc3:397.399 1fc4:389.399 1fc6:397.342 1fc7:397.342.399 1fcc:397.399
   1fd2:399.308.300 1fd3:399.308.301 1fd6:399.342 1fd7:399.308.342 1fe2:3a5.308.300
   1fe3:3a5.308.301 1fe4:3a1.313 1fe6:3a5.342 1fe7:3a5.308.342 1ff2:1ffa.399 1ff3:3a9.399
   1ff4:38f.399 1ff6:3a9.342 1ff7:3a9.342.399 1ffc:3a9.399 fb00:46.46 fb01:46.49 fb02:46.4c
   fb03:46.46.49 fb04:46.46.4c fb05:53.54 fb06:53.54 fb13:544.546 fb14:544.535 fb15:544.53b
   fb16:54e.546 fb17:544.53d"

/-- lower case of one code point by one code point -/
def lowerRuns : String :=
  "41-5a/1:+20 c0-d6/1:+20 d8-de/1:+20 100-12e/2:+1 132-136/2:+1 139-147/2:+1 14a-176/2:+1
   178-178/1:-79 179-17d/2:+1 181-181/1:+d2 182-184/2:+1 186-186/1:+ce 187-187/1:+1 189-18a/1:+cd
   18b-18b/1:+1 18e-18e/1:+4f 18f-18f/1:+ca 190-190/1:+cb 191-191/1:+1 193-193/1:+cd 194-194/1:+cf
   196-196/1:+d3 197-197/1:+d1 198-198/1:+1 19c-19c/1:+d3 19d-19d/1:+d5 19f-19f/1:+d6 1a0-1a4/2:+1
   1a6-1a6/1:+da 1a7-1a7/1:+1 1a9-1a9/1:+da 1ac-1ac/1:+1 1ae-1ae/1:+da 1af-1af/1:+1 1b1-1b2/1:+d9
   1b3-1b5/2:+1 1b7-1b7/1:+db 1b8-1b8/1:+1 1bc-1bc/1:+1 1c4-1c4/1:+2 1c5-1c5/1:+1 1c7-1c7/1:+2
   1c8-1c8/1:+1 1ca-1ca/1:+2 1cb-1db/2:+1 1de-1ee/2:+1 1f1-1f1/1:+2 1f2-1f4/2:+1 1f6-1f6/1:-61
   1f7-1f7/1:-38 1f8-21e/2:+1 220-220/1:-82 222-232/2:+1 23a-23a/1:+2a2b 23b-23b/1:+1
   23d-23d/1:-a3 23e-23e/1:+2a28 241-241/1:+1 243-243/1:-c3 244-244/1:+45 245-245/1:+47
   246-24e/2:+1 370-372/2:+1 376-376/1:+1 37f-37f/1:+74 386-386/1:+26 388-38a/1:+25 38c-38c/1:+40
   38e-38f/1:+3f 391-3a1/1:+20 3a3-3ab/1:+20 3cf-3cf/1:+8 3d8-3ee/2:+1 3f4-3f4/1:-3c 3f7-3f7/1:+1
   3f9-3f9/1:-7 3fa-3fa/1:+1 3fd-3ff/1:-82 400-40f/1:+50 410-42f/1:+20 460-480/2:+1 48a-4be/2:+1
   4c0-4c0/1:+f 4c1-4cd/2:+1 4d0-52e/2:+1 531-556/1:+30 10a0-10c5/1:+1c60 10c7-10c7/1:+1c60
   10cd-10cd/1:+1c60 13a0-13ef/1:+97d0 13f0-13f5/1:+8 1c90-1cba/1:-bc0 1cbd-1cbf/1:-bc0
   1e00-1e94/2:+1 1e9e-1e9e/1:-1dbf 1ea0-1efe/2:+1 1f08-1f0f/1:-8 1f18-1f1d/1:-8 1f28-1f2f/1:-8
   1f38-1f3f/1:-8 1f48-1f4d/1:-8 1f59-1f5f/2:-8 1f68-1f6f/1:-8 1f88-1f8f/1:-8 1f98-1f9f/1:-8
   1fa8-1faf/1:-8 1fb8-1fb9/1:-8 1fba-1fbb/1:-4a 1fbc-1fbc/1:-9 1fc8-1fcb/1:-56 1fcc-1fcc/1:-9
   1fd8-1fd9/1:-8 1fda-1fdb/1:-64 1fe8-1fe9/1:-8 1fea-1feb/1:-70 1fec-1fec/1:-7 1ff8-1ff9/1:-80
   1ffa-1ffb/1:-7e 1ffc-1ffc/1:-9 2126-2126/1:-1d5d 212a-212a/1:-20bf 212b-212b/1:-2046
   2132-2132/1:+1c 2160-216f/1:+10 2183-2183/1:+1 24b6-24cf/1:+1a 2c00-2c2f/1:+30 2c60-2c60/1:+1
   2c62-2c62/1:-29f7 2c63-2c63/1:-ee6 2c64-2c64/1:-29e7 2c67-2c6b/2:+1 2c6d-2c6d/1:-2a1c
   2c6e-2c6e/1:-29fd 2c6f-2c6f/1:-2a1f 2c70-2c70/1:-2a1e 2c72-2c72/1:+1 2c75-2c75/1:+1
   2c7e-2c7f/1:-2a3f 2c80-2ce2/2:+1 2ceb-2ced/2:+1 2cf2-2cf2/1:+1 a640-a66c/2:+1 a680-a69a/2:+1
   a722-a72e/2:+1 a732-a76e/2:+1 a779-a77b/2:+1 a77d-a77d/1:-8a04 a77e-a786/2:+1 a78b-a78b/1:+1
   a78d-a78d/1:-a528 a790-a792/2:+1 a796-a7a8/2:+1 a7aa-a7aa/1:-a544 a7ab-a7ab/1:-a54f
   a7ac-a7ac/1:-a54b a7ad-a7ad/1:-a541 a7ae-a7ae/1:-a544 a7b0-a7b0/1:-a512 a7b1-a7b1/1:-a52a
   a7b2-a7b2/1:-a515 a7b3-a7b3/1:+3a0 a7b4-a7c2/2:+1 a7c4-a7c4/1:-30 a7c5-a7c5/1:-a543
   a7c6-a7c6/1:-8a38 a7c7-a7c9/2:+1 a7d0-a7d0/1:+1 a7d6-a7d8/2:+1 a7f5-a7f5/1:+1 ff21-ff3a/1:+20
   10400-10427/1:+28 104b0-104d3/1:+28 10570-1057a/1:+27 1057c-1058a/1:+27 1058c-10592/1:+27
   10594-10595/1:+27 10c80-10cb2/1:+40 118a0-118bf/1:+20 16e40-16e5f/1:+20 1e900-1e921/1:+22"

/-- lower case of one code point by several -/
def lowerSpecial : String :=
  "130:69.307"

def titleSpecial : String :=
  "df:53.73 1c4:1c5 1c5:1c5 1c6:1c5 1c7:1c8 1c8:1c8 1c9:1c8 1ca:1cb 1cb:1cb 1cc:1cb 1f1:1f2
   1f2:1f2 1f3:1f2 587:535.582 10d0:10d0 10d1:10d1 10d2:10d2 10d3:10d3 10d4:10d4 10d5:10d5
   10d6:10d6 10d7:10d7 10d8:10d8 10d9:10d9 10da:10da 10db:10db 10dc:10dc 10dd:10dd 10de:10de
   10df:10df 10e0:10e0 10e1:10e1 10e2:10e2 10e3:10e3 10e4:10e4 10e5:10e5 10e6:10e6 10e7:10e7
   10e8:10e8 10e9:10e9 10ea:10ea 10eb:10eb 10ec:10ec 10ed:10ed 10ee:10ee 10ef:10ef 10f0:10f0
   10f1:10f1 10f2:10f2 10f3:10f3 10f4:10f4 10f5:10f5 10f6:10f6 10f7:10f7 10f8:10f8 10f9:10f9
   10fa:10fa 10fd:10fd 10fe:10fe 10ff:10ff 1f80:1f88 1f81:1f89 1f82:1f8a 1f83:1f8b 1f84:1f8c
   1f85:1f8d 1f86:1f8e 1f87:1f8f 1f88:1f88 1f89:1f89 1f8a:1f8a 1f8b:1f8b 1f8c:1f8c 1f8d:1f8d
   1f8e:1f8e 1f8f:1f8f 1f90:1f98 1f91:1f99 1f92:1f9a 1f93:1f9b 1f94:1f9c 1f95:1f9d 1f96:1f9e
   1f97:1f9f 1f98:1f98 1f99:1f99 1f9a:1f9a 1f9b:1f9b 1f9c:1f9c 1f9d:1f9d 1f9e:1f9e 1f9f:1f9f
   1fa0:1fa8 1fa1:1fa9 1fa2:1faa 1fa3:1fab 1fa4:1fac 1fa5:1fad 1fa6:1fae 1fa7:1faf 1fa8:1fa8
   1fa9:1fa9 1faa:1faa 1fab:1fab 1fac:1fac 1fad:1fad 1fae:1fae 1faf:1faf 1fb2:1fba.345 1fb3:1fbc
   1fb4:386.345 1fb7:391.342.345 1fbc:1fbc 1fc2:1fca.345 1fc3:1fcc 1fc4:389.345 1fc7:397.342.345
   1fcc:1fcc 1ff2:1ffa.345 1ff3:1ffc 1ff4:38f.345 1ff7:3a9.342.345 1ffc:1ffc fb00:46.66 fb01:46.69
   fb02:46.6c fb03:46.66.69 fb04:46.66.6c fb05:53.74 fb06:53.74 fb13:544.576 fb14:544.565
   fb15:544.56b fb16:54e.576 fb17:544.56d"

/-- what is left of one code point without its case, by one code point, where it is not the lower case -/
def foldRuns : String :=
  "b5-b5/1:+307 17f-17f/1:-10c 345-345/1:+74 3c2-3c2/1:+1 3d0-3d0/1:-1e 3d1-3d1/1:-19 3d5-3d5/1:-f
   3d6-3d6/1:-16 3f0-3f0/1:-36 3f1-3f1/1:-30 3f5-3f5/1:-40 13a0-13f5/1:+0 13f8-13fd/1:-8
   1c80-1c80/1:-184e 1c81-1c81/1:-184d 1c82-1c82/1:-1844 1c83-1c84/1:-1842 1c85-1c85/1:-1843
   1c86-1c86/1:-183c 1c87-1c87/1:-1824 1c88-1c88/1:+89c3 1e9b-1e9b/1:-3a 1fbe-1fbe/1:-1c05
   ab70-abbf/1:-97d0"

/-- the same by several -/
def foldSpecial : String :=
  "df:73.73 149:2bc.6e 1f0:6a.30c 390:3b9.308.301 3b0:3c5.308.301 587:565.582 1e96:68.331
   1e97:74.308 1e98:77.30a 1e99:79.30a 1e9a:61.2be 1e9e:73.73 1f50:3c5.313 1f52:3c5.313.300
   1f54:3c5.313.301 1f56:3c5.313.342 1f80:1f00.3b9 1f81:1f01.3b9 1f82:1f02.3b9 1f83:1f03.3b9
   1f84:1f04.3b9 1f85:1f05.3b9 1f86:1f06.3b9 1f87:1f07.3b9 1f88:1f00.3b9 1f89:1f01.3b9
   1f8a:1f02.3b9 1f8b:1f03.3b9 1f8c:1f04.3b9 1f8d:1f05.3b9 1f8e:1f06.3b9 1f8f:1f07.3b9
   1f90:1f20.3b9 1f91:1f21.3b9 1f92:1f22.3b9 1f93:1f23.3b9 1f94:1f24.3b9 1f95:1f25.3b9
   1f96:1f26.3b9 1f97:1f27.3b9 1f98:1f20.3b9 1f99:1f21.3b9 1f9a:1f22.3b9 1f9b:1f23.3b9
   1f9c:1f24.3b9 1f9d:1f25.3b9 1f9e:1f26.3b9 1f9f:1f27.3b9 1fa0:1f60.3b9 1fa1:1f61.3b9
   1fa2:1f62.3b9 1fa3:1f63.3b9 1fa4:1f64.3b9 1fa5:1f65.3b9 1fa6:1f66.3b9 1fa7:1f67.3b9
   1fa8:1f60.3b9 1fa9:1f61.3b9 1faa:1f62.3b9 1fab:1f63.3b9 1fac:1f64.3b9 1fad:1f65.3b9
   1fae:1f66.3b9 1faf:1f67.3b9 1fb2:1f70.3b9 1fb3:3b1.3b9 1fb4:3ac.3b9 1fb6:3b1.342
   1fb7:3b1.342.3b9 1fbc:3b1.3b9 1fc2:1f74.3b9 1fc3:3b7.3b9 1fc4:3ae.3b9 1fc6:3b7.342
   1fc7:3b7.342.3b9 1fcc:3b7.3b9 1fd2:3b9.308.300 1fd3:3b9.308.301 1fd6:3b9.342 1fd7:3b9.308.342
   1fe2:3c5.308.300 1fe3:3c5.308.301 1fe4:3c1.313 1fe6:3c5.342 1fe7:3c5.308.342 1ff2:1f7c.3b9
   1ff3:3c9.3b9 1ff4:3ce.3b9 1ff6:3c9.342 1ff7:3c9.342.3b9 1ffc:3c9.3b9 fb00:66.66 fb01:66.69
   fb02:66.6c fb03:66.66.69 fb04:66.66.6c fb05:73.74 fb06:73.74 fb13:574.576 fb14:574.565
   fb15:574.56b fb16:57e.576 fb17:574.56d"

/-- code points counted as upper case -/
def upperLetters : Ranges :=
  .ofHex "41-5a c0-d6 d8-de 100 102 104 106 108 10a 10c 10e 110 112 114 116 118 11a 11c 11e 120 122 124
   126 128 12a 12c 12e 130 132 134 136 139 13b 13d 13f 141 143 145 147 14a 14c 14e 150 152 154 156
   158 15a 15c 15e 160 162 164 166 168 16a 16c 16e 170 172 174 176 178-179 17b 17d 181-182 184
   186-187 189-18b 18e-191 193-194 196-198 19c-19d 19f-1a0 1a2 1a4 1a6-1a7 1a9 1ac 1ae-1af 1b1-1b3
   1b5 1b7-1b8 1bc 1c4 1c7 1ca 1cd 1cf 1d1 1d3 1d5 1d7 1d9 1db 1de 1e0 1e2 1e4 1e6 1e8 1ea 1ec 1ee
   1f1 1f4 1f6-1f8 1fa 1fc 1fe 200 202 204 206 208 20a 20c 20e 210 212 214 216 218 21a 21c 21e 220
   222 224 226 228 22a 22c 22e 230 232 23a-23b 23d-23e 241 243-246 248 24a 24c 24e 370 372 376 37f
   386 388-38a 38c 38e-38f 391-3a1 3a3-3ab 3cf 3d2-3d4 3d8 3da 3dc 3de 3e0 3e2 3e4 3e6 3e8 3ea 3ec
   3ee 3f4 3f7 3f9-3fa 3fd-42f 460 462 464 466 468 46a 46c 46e 470 472 474 476 478 47a 47c 47e 480
   48a 48c 48e 490 492 494 496 498 49a 49c 49e 4a0 4a2 4a4 4a6 4a8 4aa 4ac 4ae 4b0 4b2 4b4 4b6 4b8
   4ba 4bc 4be 4c0-4c1 4c3 4c5 4c7 4c9 4cb 4cd 4d0 4d2 4d4 4d6 4d8 4da 4dc 4de 4e0 4e2 4e4 4e6 4e8
   4ea 4ec 4ee 4f0 4f2 4f4 4f6 4f8 4fa 4fc 4fe 500 502 504 506 508 50a 50c 50e 510 512 514 516 518
   51a 51c 51e 520 522 524 526 528 52a 52c 52e 531-556 10a0-10c5 10c7 10cd 13a0-13f5 1c90-1cba
   1cbd-1cbf 1e00 1e02 1e04 1e06 1e08 1e0a 1e0c 1e0e 1e10 1e12 1e14 1e16 1e18 1e1a 1e1c 1e1e 1e20
   1e22 1e24 1e26 1e28 1e2a 1e2c 1e2e 1e30 1e32 1e34 1e36 1e38 1e3a 1e3c 1e3e 1e40 1e42 1e44 1e46
   1e48 1e4a 1e4c 1e4e 1e50 1e52 1e54 1e56 1e58 1e5a 1e5c 1e5e 1e60 1e62 1e64 1e66 1e68 1e6a 1e6c
   1e6e 1e70 1e72 1e74 1e76 1e78 1e7a 1e7c 1e7e 1e80 1e82 1e84 1e86 1e88 1e8a 1e8c 1e8e 1e90 1e92
   1e94 1e9e 1ea0 1ea2 1ea4 1ea6 1ea8 1eaa 1eac 1eae 1eb0 1eb2 1eb4 1eb6 1eb8 1eba 1ebc 1ebe 1ec0
   1ec2 1ec4 1ec6 1ec8 1eca 1ecc 1ece 1ed0 1ed2 1ed4 1ed6 1ed8 1eda 1edc 1ede 1ee0 1ee2 1ee4 1ee6
   1ee8 1eea 1eec 1eee 1ef0 1ef2 1ef4 1ef6 1ef8 1efa 1efc 1efe 1f08-1f0f 1f18-1f1d 1f28-1f2f
   1f38-1f3f 1f48-1f4d 1f59 1f5b 1f5d 1f5f 1f68-1f6f 1fb8-1fbb 1fc8-1fcb 1fd8-1fdb 1fe8-1fec
   1ff8-1ffb 2102 2107 210b-210d 2110-2112 2115 2119-211d 2124 2126 2128 212a-212d 2130-2133
   213e-213f 2145 2160-216f 2183 24b6-24cf 2c00-2c2f 2c60 2c62-2c64 2c67 2c69 2c6b 2c6d-2c70 2c72
   2c75 2c7e-2c80 2c82 2c84 2c86 2c88 2c8a 2c8c 2c8e 2c90 2c92 2c94 2c96 2c98 2c9a 2c9c 2c9e 2ca0
   2ca2 2ca4 2ca6 2ca8 2caa 2cac 2cae 2cb0 2cb2 2cb4 2cb6 2cb8 2cba 2cbc 2cbe 2cc0 2cc2 2cc4 2cc6
   2cc8 2cca 2ccc 2cce 2cd0 2cd2 2cd4 2cd6 2cd8 2cda 2cdc 2cde 2ce0 2ce2 2ceb 2ced 2cf2 a640 a642
   a644 a646 a648 a64a a64c a64e a650 a652 a654 a656 a658 a65a a65c a65e a660 a662 a664 a666 a668
   a66a a66c a680 a682 a684 a686 a688 a68a a68c a68e a690 a692 a694 a696 a698 a69a a722 a724 a726
   a728 a72a a72c a72e a732 a734 a736 a738 a73a a73c a73e a740 a742 a744 a746 a748 a74a a74c a74e
   a750 a752 a754 a756 a758 a75a a75c a75e a760 a762 a764 a766 a768 a76a a76c a76e a779 a77b
   a77d-a77e a780 a782 a784 a786 a78b a78d a790 a792 a796 a798 a79a a79c a79e a7a0 a7a2 a7a4 a7a6
   a7a8 a7aa-a7ae a7b0-a7b4 a7b6 a7b8 a7ba a7bc a7be a7c0 a7c2 a7c4-a7c7 a7c9 a7d0 a7d6 a7d8 a7f5
   ff21-ff3a 10400-10427 104b0-104d3 10570-1057a 1057c-1058a 1058c-10592 10594-10595 10c80-10cb2
   118a0-118bf 16e40-16e5f 1d400-1d419 1d434-1d44d 1d468-1d481 1d49c 1d49e-1d49f 1d4a2 1d4a5-1d4a6
   1d4a9-1d4ac 1d4ae-1d4b5 1d4d0-1d4e9 1d504-1d505 1d507-1d50a 1d50d-1d514 1d516-1d51c 1d538-1d539
   1d53b-1d53e 1d540-1d544 1d546 1d54a-1d550 1d56c-1d585 1d5a0-1d5b9 1d5d4-1d5ed 1d608-1d621
   1d63c-1d655 1d670-1d689 1d6a8-1d6c0 1d6e2-1d6fa 1d71c-1d734 1d756-1d76e 1d790-1d7a8 1d7ca
   1e900-1e921 1f130-1f149 1f150-1f169 1f170-1f189"

/-- code points counted as lower case -/
def lowerLetters : Ranges :=
  .ofHex "61-7a aa b5 ba df-f6 f8-ff 101 103 105 107 109 10b 10d 10f 111 113 115 117 119 11b 11d 11f 121
   123 125 127 129 12b 12d 12f 131 133 135 137-138 13a 13c 13e 140 142 144 146 148-149 14b 14d 14f
   151 153 155 157 159 15b 15d 15f 161 163 165 167 169 16b 16d 16f 171 173 175 177 17a 17c 17e-180
   183 185 188 18c-18d 192 195 199-19b 19e 1a1 1a3 1a5 1a8 1aa-1ab 1ad 1b0 1b4 1b6 1b9-1ba 1bd-1bf
   1c6 1c9 1cc 1ce 1d0 1d2 1d4 1d6 1d8 1da 1dc-1dd 1df 1e1 1e3 1e5 1e7 1e9 1eb 1ed 1ef-1f0 1f3 1f5
   1f9 1fb 1fd 1ff 201 203 205 207 209 20b 20d 20f 211 213 215 217 219 21b 21d 21f 221 223 225 227
   229 22b 22d 22f 231 233-239 23c 23f-240 242 247 249 24b 24d 24f-293 295-2b8 2c0-2c1 2e0-2e4 345
   371 373 377 37a-37d 390 3ac-3ce 3d0-3d1 3d5-3d7 3d9 3db 3dd 3df 3e1 3e3 3e5 3e7 3e9 3eb 3ed
   3ef-3f3 3f5 3f8 3fb-3fc 430-45f 461 463 465 467 469 46b 46d 46f 471 473 475 477 479 47b 47d 47f
   481 48b 48d 48f 491 493 495 497 499 49b 49d 49f 4a1 4a3 4a5 4a7 4a9 4ab 4ad 4af 4b1 4b3 4b5 4b7
   4b9 4bb 4bd 4bf 4c2 4c4 4c6 4c8 4ca 4cc 4ce-4cf 4d1 4d3 4d5 4d7 4d9 4db 4dd 4df 4e1 4e3 4e5 4e7
   4e9 4eb 4ed 4ef 4f1 4f3 4f5 4f7 4f9 4fb 4fd 4ff 501 503 505 507 509 50b 50d 50f 511 513 515 517
   519 51b 51d 51f 521 523 525 527 529 52b 52d 52f 560-588 10d0-10fa 10fd-10ff 13f8-13fd 1c80-1c88
   1d00-1dbf 1e01 1e03 1e05 1e07 1e09 1e0b 1e0d 1e0f 1e11 1e13 1e15 1e17 1e19 1e1b 1e1d 1e1f 1e21
   1e23 1e25 1e27 1e29 1e2b 1e2d 1e2f 1e31 1e33 1e35 1e37 1e39 1e3b 1e3d 1e3f 1e41 1e43 1e45 1e47
   1e49 1e4b 1e4d 1e4f 1e51 1e53 1e55 1e57 1e59 1e5b 1e5d 1e5f 1e61 1e63 1e65 1e67 1e69 1e6b 1e6d
   1e6f 1e71 1e73 1e75 1e77 1e79 1e7b 1e7d 1e7f 1e81 1e83 1e85 1e87 1e89 1e8b 1e8d 1e8f 1e91 1e93
   1e95-1e9d 1e9f 1ea1 1ea3 1ea5 1ea7 1ea9 1eab 1ead 1eaf 1eb1 1eb3 1eb5 1eb7 1eb9 1ebb 1ebd 1ebf
   1ec1 1ec3 1ec5 1ec7 1ec9 1ecb 1ecd 1ecf 1ed1 1ed3 1ed5 1ed7 1ed9 1edb 1edd 1edf 1ee1 1ee3 1ee5
   1ee7 1ee9 1eeb 1eed 1eef 1ef1 1ef3 1ef5 1ef7 1ef9 1efb 1efd 1eff-1f07 1f10-1f15 1f20-1f27
   1f30-1f37 1f40-1f45 1f50-1f57 1f60-1f67 1f70-1f7d 1f80-1f87 1f90-1f97 1fa0-1fa7 1fb0-1fb4
   1fb6-1fb7 1fbe 1fc2-1fc4 1fc6-1fc7 1fd0-1fd3 1fd6-1fd7 1fe0-1fe7 1ff2-1ff4 1ff6-1ff7 2071 207f
   2090-209c 210a 210e-210f 2113 212f 2134 2139 213c-213d 2146-2149 214e 2170-217f 2184 24d0-24e9
   2c30-2c5f 2c61 2c65-2c66 2c68 2c6a 2c6c 2c71 2c73-2c74 2c76-2c7d 2c81 2c83 2c85 2c87 2c89 2c8b
   2c8d 2c8f 2c91 2c93 2c95 2c97 2c99 2c9b 2c9d 2c9f 2ca1 2ca3 2ca5 2ca7 2ca9 2cab 2cad 2caf 2cb1
   2cb3 2cb5 2cb7 2cb9 2cbb 2cbd 2cbf 2cc1 2cc3 2cc5 2cc7 2cc9 2ccb 2ccd 2ccf 2cd1 2cd3 2cd5 2cd7
   2cd9 2cdb 2cdd 2cdf 2ce1 2ce3-2ce4 2cec 2cee 2cf3 2d00-2d25 2d27 2d2d a641 a643 a645 a647 a649
   a64b a64d a64f a651 a653 a655 a657 a659 a65b a65d a65f a661 a663 a665 a667 a669 a66b a66d a681
   a683 a685 a687 a689 a68b a68d a68f a691 a693 a695 a697 a699 a69b-a69d a723 a725 a727 a729 a72b
   a72d a72f-a731 a733 a735 a737 a739 a73b a73d a73f a741 a743 a745 a747 a749 a74b a74d a74f a751
   a753 a755 a757 a759 a75b a75d a75f a761 a763 a765 a767 a769 a76b a76d a76f-a778 a77a a77c a77f
   a781 a783 a785 a787 a78c a78e a791 a793-a795 a797 a799 a79b a79d a79f a7a1 a7a3 a7a5 a7a7 a7a9
   a7af a7b5 a7b7 a7b9 a7bb a7bd a7bf a7c1 a7c3 a7c8 a7ca a7d1 a7d3 a7d5 a7d7 a7d9 a7f6 a7f8-a7fa
   ab30-ab5a ab5c-ab68 ab70-abbf fb00-fb06 fb13-fb17 ff41-ff5a 10428-1044f 104d8-104fb 10597-105a1
   105a3-105b1 105b3-105b9 105bb-105bc 10780 10783-10785 10787-107b0 107b2-107ba 10cc0-10cf2
   118c0-118df 16e60-16e7f 1d41a-1d433 1d44e-1d454 1d456-1d467 1d482-1d49b 1d4b6-1d4b9 1d4bb
   1d4bd-1d4c3 1d4c5-1d4cf 1d4ea-1d503 1d51e-1d537 1d552-1d56b 1d586-1d59f 1d5ba-1d5d3 1d5ee-1d607
   1d622-1d63b 1d656-1d66f 1d68a-1d6a5 1d6c2-1d6da 1d6dc-1d6e1 1d6fc-1d714 1d716-1d71b 1d736-1d74e
   1d750-1d755 1d770-1d788 1d78a-1d78f 1d7aa-1d7c2 1d7c4-1d7c9 1d7cb 1df00-1df09 1df0b-1df1e
   1e922-1e943"

/-- code points with case -/
def casedLetters : Ranges :=
  .ofHex "41-5a 61-7a aa b5 ba c0-d6 d8-f6 f8-1ba 1bc-1bf 1c4-293 295-2b8 2c0-2c1 2e0-2e4 345 370-373
   376-377 37a-37d 37f 386 388-38a 38c 38e-3a1 3a3-3f5 3f7-481 48a-52f 531-556 560-588 10a0-10c5
   10c7 10cd 10d0-10fa 10fd-10ff 13a0-13f5 13f8-13fd 1c80-1c88 1c90-1cba 1cbd-1cbf 1d00-1dbf
   1e00-1f15 1f18-1f1d 1f20-1f45 1f48-1f4d 1f50-1f57 1f59 1f5b 1f5d 1f5f-1f7d 1f80-1fb4 1fb6-1fbc
   1fbe 1fc2-1fc4 1fc6-1fcc 1fd0-1fd3 1fd6-1fdb 1fe0-1fec 1ff2-1ff4 1ff6-1ffc 2071 207f 2090-209c
   2102 2107 210a-2113 2115 2119-211d 2124 2126 2128 212a-212d 212f-2134 2139 213c-213f 2145-2149
   214e 2160-217f 2183-2184 24b6-24e9 2c00-2ce4 2ceb-2cee 2cf2-2cf3 2d00-2d25 2d27 2d2d a640-a66d
   a680-a69d a722-a787 a78b-a78e a790-a7ca a7d0-a7d1 a7d3 a7d5-a7d9 a7f5-a7f6 a7f8-a7fa ab30-ab5a
   ab5c-ab68 ab70-abbf fb00-fb06 fb13-fb17 ff21-ff3a ff41-ff5a 10400-1044f 104b0-104d3 104d8-104fb
   10570-1057a 1057c-1058a 1058c-10592 10594-10595 10597-105a1 105a3-105b1 105b3-105b9 105bb-105bc
   10780 10783-10785 10787-107b0 107b2-107ba 10c80-10cb2 10cc0-10cf2 118a0-118df 16e40-16e7f
   1d400-1d454 1d456-1d49c 1d49e-1d49f 1d4a2 1d4a5-1d4a6 1d4a9-1d4ac 1d4ae-1d4b9 1d4bb 1d4bd-1d4c3
   1d4c5-1d505 1d507-1d50a 1d50d-1d514 1d516-1d51c 1d51e-1d539 1d53b-1d53e 1d540-1d544 1d546
   1d54a-1d550 1d552-1d6a5 1d6a8-1d6c0 1d6c2-1d6da 1d6dc-1d6fa 1d6fc-1d714 1d716-1d734 1d736-1d74e
   1d750-1d76e 1d770-1d788 1d78a-1d7a8 1d7aa-1d7c2 1d7c4-1d7cb 1df00-1df09 1df0b-1df1e 1e900-1e943
   1f130-1f149 1f150-1f169 1f170-1f189"

/-- code points passed over when a final sigma is looked for -/
def caseIgnorable : Ranges :=
  .ofHex "27 2e 3a 5e 60 a8 ad af b4 b7-b8 2b0-36f 374-375 37a 384-385 387 483-489 559 55f 591-5bd 5bf
   5c1-5c2 5c4-5c5 5c7 5f4 600-605 610-61a 61c 640 64b-65f 670 6d6-6dd 6df-6e8 6ea-6ed 70f 711
   730-74a 7a6-7b0 7eb-7f5 7fa 7fd 816-82d 859-85b 888 890-891 898-89f 8c9-902 93a 93c 941-948 94d
   951-957 962-963 971 981 9bc 9c1-9c4 9cd 9e2-9e3 9fe a01-a02 a3c a41-a42 a47-a48 a4b-a4d a51
   a70-a71 a75 a81-a82 abc ac1-ac5 ac7-ac8 acd ae2-ae3 afa-aff b01 b3c b3f b41-b44 b4d b55-b56
   b62-b63 b82 bc0 bcd c00 c04 c3c c3e-c40 c46-c48 c4a-c4d c55-c56 c62-c63 c81 cbc cbf cc6 ccc-ccd
   ce2-ce3 d00-d01 d3b-d3c d41-d44 d4d d62-d63 d81 dca dd2-dd4 dd6 e31 e34-e3a e46-e4e eb1 eb4-ebc
   ec6 ec8-ecd f18-f19 f35 f37 f39 f71-f7e f80-f84 f86-f87 f8d-f97 f99-fbc fc6 102d-1030 1032-1037
   1039-103a 103d-103e 1058-1059 105e-1060 1071-1074 1082 1085-1086 108d 109d 10fc 135d-135f
   1712-1714 1732-1733 1752-1753 1772-1773 17b4-17b5 17b7-17bd 17c6 17c9-17d3 17d7 17dd 180b-180f
   1843 1885-1886 18a9 1920-1922 1927-1928 1932 1939-193b 1a17-1a18 1a1b 1a56 1a58-1a5e 1a60 1a62
   1a65-1a6c 1a73-1a7c 1a7f 1aa7 1ab0-1ace 1b00-1b03 1b34 1b36-1b3a 1b3c 1b42 1b6b-1b73 1b80-1b81
   1ba2-1ba5 1ba8-1ba9 1bab-1bad 1be6 1be8-1be9 1bed 1bef-1bf1 1c2c-1c33 1c36-1c37 1c78-1c7d
   1cd0-1cd2 1cd4-1ce0 1ce2-1ce8 1ced 1cf4 1cf8-1cf9 1d2c-1d6a 1d78 1d9b-1dff 1fbd 1fbf-1fc1
   1fcd-1fcf 1fdd-1fdf 1fed-1fef 1ffd-1ffe 200b-200f 2018-2019 2024 2027 202a-202e 2060-2064
   2066-206f 2071 207f 2090-209c 20d0-20f0 2c7c-2c7d 2cef-2cf1 2d6f 2d7f 2de0-2dff 2e2f 3005
   302a-302d 3031-3035 303b 3099-309e 30fc-30fe a015 a4f8-a4fd a60c a66f-a672 a674-a67d a67f
   a69c-a69f a6f0-a6f1 a700-a721 a770 a788-a78a a7f2-a7f4 a7f8-a7f9 a802 a806 a80b a825-a826 a82c
   a8c4-a8c5 a8e0-a8f1 a8ff a926-a92d a947-a951 a980-a982 a9b3 a9b6-a9b9 a9bc-a9bd a9cf a9e5-a9e6
   aa29-aa2e aa31-aa32 aa35-aa36 aa43 aa4c aa70 aa7c aab0 aab2-aab4 aab7-aab8 aabe-aabf aac1 aadd
   aaec-aaed aaf3-aaf4 aaf6 ab5b-ab5f ab69-ab6b abe5 abe8 abed fb1e fbb2-fbc2 fe00-fe0f fe13
   fe20-fe2f fe52 fe55 feff ff07 ff0e ff1a ff3e ff40 ff70 ff9e-ff9f ffe3 fff9-fffb 101fd 102e0
   10376-1037a 10780-10785 10787-107b0 107b2-107ba 10a01-10a03 10a05-10a06 10a0c-10a0f 10a38-10a3a
   10a3f 10ae5-10ae6 10d24-10d27 10eab-10eac 10f46-10f50 10f82-10f85 11001 11038-11046 11070
   11073-11074 1107f-11081 110b3-110b6 110b9-110ba 110bd 110c2 110cd 11100-11102 11127-1112b
   1112d-11134 11173 11180-11181 111b6-111be 111c9-111cc 111cf 1122f-11231 11234 11236-11237 1123e
   112df 112e3-112ea 11300-11301 1133b-1133c 11340 11366-1136c 11370-11374 11438-1143f 11442-11444
   11446 1145e 114b3-114b8 114ba 114bf-114c0 114c2-114c3 115b2-115b5 115bc-115bd 115bf-115c0
   115dc-115dd 11633-1163a 1163d 1163f-11640 116ab 116ad 116b0-116b5 116b7 1171d-1171f 11722-11725
   11727-1172b 1182f-11837 11839-1183a 1193b-1193c 1193e 11943 119d4-119d7 119da-119db 119e0
   11a01-11a0a 11a33-11a38 11a3b-11a3e 11a47 11a51-11a56 11a59-11a5b 11a8a-11a96 11a98-11a99
   11c30-11c36 11c38-11c3d 11c3f 11c92-11ca7 11caa-11cb0 11cb2-11cb3 11cb5-11cb6 11d31-11d36 11d3a
   11d3c-11d3d 11d3f-11d45 11d47 11d90-11d91 11d95 11d97 11ef3-11ef4 13430-13438 16af0-16af4
   16b30-16b36 16b40-16b43 16f4f 16f8f-16f9f 16fe0-16fe1 16fe3-16fe4 1aff0-1aff3 1aff5-1affb
   1affd-1affe 1bc9d-1bc9e 1bca0-1bca3 1cf00-1cf2d 1cf30-1cf46 1d167-1d169 1d173-1d182 1d185-1d18b
   1d1aa-1d1ad 1d242-1d244 1da00-1da36 1da3b-1da6c 1da75 1da84 1da9b-1da9f 1daa1-1daaf 1e000-1e006
   1e008-1e018 1e01b-1e021 1e023-1e024 1e026-1e02a 1e130-1e13d 1e2ae 1e2ec-1e2ef 1e8d0-1e8d6
   1e944-1e94b 1f3fb-1f3ff e0001 e0020-e007f e0100-e01ef"

end BadgeEngine.Text
